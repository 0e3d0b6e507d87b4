import ContentLine.Proofs.Builder.Settings
import ContentLine.Proofs.Text.Trim
import ContentLine.Zone.Excerpt

/-!
# The normal form of settings

Some settings of a builder add to what it has and others take the place of what it had, and the
setting for a whole line does both. However they are ordered and cut into pieces, what they leave
can be said with five settings, one of each field. Two ways to set a builder up are the same if they
agree in these five, where names count in upper case and values without the blanks at their ends.

## Main definitions

* `Builder.lastName`, `Builder.lastValue`, `Builder.lastRegistry`: what settings give last.
* `Builder.SameContent`: two lists of settings agree in each field.
* `Builder.normalForm`: five settings with the content of any list of settings.

## Main results

* `Builder.ofSettings_normalForm`: the normal form leaves the same builder.
* `Builder.sameContent_iff_normalForm_eq`: lists of the same content have one normal form.
* `Builder.normalForm_eq_iff`: the normal form is no finer and no coarser than what settings leave.
* `Builder.build_of_sameContent`: what is built depends on the content alone.
-/

namespace ContentLine

namespace Builder

/-- The name that settings give last, and the empty name of a new builder if they give none. -/
def lastName (settings : List Setting) : String :=
  (latest? Setting.givenName? settings).getD ""

/-- The value that settings give last, and the empty value of a new builder if they give none. -/
def lastValue (settings : List Setting) : String :=
  (latest? Setting.givenValue? settings).getD ""

/-- The registry that settings give last, and none if they do not give one. -/
def lastRegistry (settings : List Setting) : Option ZoneRegistry :=
  (latest? Setting.givenRegistry? settings).getD none

/-- Two lists of settings add the same factories and the same parameters in the same order, however
they are cut into settings, and give the same name up to case, the same value up to blanks at its
ends, and the same registry last. -/
structure SameContent (first second : List Setting) : Prop where
  factories : first.flatMap Setting.addedFactories = second.flatMap Setting.addedFactories
  name : Text.upper (lastName first) = Text.upper (lastName second)
  value : Text.trim (lastValue first) = Text.trim (lastValue second)
  parameters : first.flatMap Setting.addedParameters = second.flatMap Setting.addedParameters
  registry : lastRegistry first = lastRegistry second

/-- One setting of each field, with all that settings add to it or give last. -/
def normalForm (settings : List Setting) : List Setting :=
  [.factories (settings.flatMap Setting.addedFactories),
    .name (Text.upper (lastName settings)),
    .value (Text.trim (lastValue settings)),
    .parameters (settings.flatMap Setting.addedParameters),
    .registry (lastRegistry settings)]

variable {first second : List Setting}

/-- Settings of the same content have the same normal form, and no others do. -/
theorem sameContent_iff_normalForm_eq :
    SameContent first second ↔ normalForm first = normalForm second := by
  constructor
  · intro h
    rw [normalForm, h.factories, h.name, h.value, h.parameters, h.registry, normalForm]
  · intro h
    simp only [normalForm, List.cons.injEq, Setting.factories.injEq, Setting.name.injEq,
      Setting.value.injEq, Setting.parameters.injEq, Setting.registry.injEq, and_true] at h
    obtain ⟨hfactories, hname, hvalue, hparameters, hregistry⟩ := h
    exact ⟨hfactories, hname, hvalue, hparameters, hregistry⟩

/-- The normal form of settings leaves the same builder as they do. -/
theorem ofSettings_normalForm (allowAnyName : Option Bool) (settings : List Setting) :
    ofSettings allowAnyName (normalForm settings) = ofSettings allowAnyName settings := by
  -- A name in upper case and a trimmed value are taken over as they are.
  calc ofSettings allowAnyName (normalForm settings)
      = { factories := settings.flatMap Setting.addedFactories
          name := Text.upper (Text.upper (lastName settings))
          value := Text.trim (Text.trim (lastValue settings))
          parameters := settings.flatMap Setting.addedParameters
          registry := lastRegistry settings
          allowAnyName } := rfl
    _ = ofSettings allowAnyName settings := by
        rw [Text.upper_upper, Text.trim_trim, ofSettings_eq]
        rfl

/-- Settings leave the same builder exactly if they have the same normal form. -/
theorem normalForm_eq_iff (allowAnyName : Option Bool) :
    normalForm first = normalForm second ↔
      ofSettings allowAnyName first = ofSettings allowAnyName second := by
  constructor
  · intro h
    rw [← ofSettings_normalForm, h, ofSettings_normalForm]
  · intro h
    rw [ofSettings_eq, ofSettings_eq, Builder.mk.injEq] at h
    obtain ⟨hfactories, hname, hvalue, hparameters, hregistry, -⟩ := h
    exact sameContent_iff_normalForm_eq.mp ⟨hfactories, hname, hvalue, hparameters, hregistry⟩

/-- New builders that are set up with the same content build the same: the property or the fault,
and all events on the way, are those of the normal form, in whatever order the fields were set and
however their parts were cut. -/
theorem build_of_sameContent [ZoneDatabase] (allowAnyName : Option Bool) (leniency : Leniency)
    (h : SameContent first second) :
    (ofSettings allowAnyName first).build leniency =
      (ofSettings allowAnyName second).build leniency := by
  have hnormal : normalForm first = normalForm second := sameContent_iff_normalForm_eq.mp h
  calc (ofSettings allowAnyName first).build leniency
      = (ofSettings allowAnyName (normalForm first)).build leniency := by
        rw [ofSettings_normalForm]
    _ = (ofSettings allowAnyName (normalForm second)).build leniency := by rw [hnormal]
    _ = (ofSettings allowAnyName second).build leniency := by rw [ofSettings_normalForm]

/-- A summary set up from another line, of which only the parameter is left in the end. -/
def summaryByLine : List Setting :=
  [.line ⟨"x-note", "old", some [⟨"a", ["1", "2"]⟩]⟩,
    .factories [.named "SUMMARY" (.literal .plain), .named "SUMMARY" (.literal .text)],
    .parameters [.of "b" "3", .of "c" "4"],
    .name "Summary",
    .value "\t new\\,er "]

/-- The same summary set up field by field, with its lists in smaller pieces. -/
def summaryByFields : List Setting :=
  [.parameter (.of "A" "1,2"),
    .value "new\\,er",
    .factories [.named "SUMMARY" (.literal .plain)],
    .parameters [.of "B" "3"],
    .registry none,
    .factories [.named "SUMMARY" (.literal .text)],
    .name "sUMMARY",
    .parameters [],
    .parameter (.of "C" "4")]

/-- Both ways to set the summary up build the same. -/
theorem build_of_sameContent_summary :
    SameContent summaryByLine summaryByFields ∧
      (ofSettings none summaryByLine).build .strict =
        (ofSettings none summaryByFields).build .strict := by
  have hsame : SameContent summaryByLine summaryByFields :=
    { factories := rfl
      name := by decide +kernel
      value := by decide +kernel
      parameters := by decide +kernel
      registry := rfl }
  exact ⟨hsame, build_of_sameContent none .strict hsame⟩

/-- The text property of the last factory is built, with all three parameters. -/
example : ((ofSettings none summaryByFields).build .strict).events =
    [.note (.overrides "NamedPropertyFactory(SUMMARY, TextProperty)"
        "NamedPropertyFactory(SUMMARY, PlainProperty)" "SUMMARY"),
      .note (.built ("TextProperty(name='SUMMARY', params=[Parameter(name='A', value='1,2'), " ++
        "Parameter(name='B', value='3'), Parameter(name='C', value='4')], value='new,er')"))] := by
  decide +kernel

end Builder

end ContentLine
