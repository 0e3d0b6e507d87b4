import ContentLine.Proofs.Builder.Registration
import ContentLine.Proofs.Text.Trim
import ContentLine.Zone.Excerpt

/-!
# Building text properties from escaped text

The value of a content line is trimmed before it is unescaped. A text that is escaped for a content
line keeps its line feeds at both ends and loses only the other blanks there, and the value of a
text property that was built from any line at all loses nothing.

## Main results

* `Builder.build_escape`: the value that an escaped text gives, and the value of a text property
  given back by the property built from it.
-/

namespace ContentLine.Builder

/-- A name that is last registered for text gives a property with the value without blank ends,
unescaped. -/
theorem build_text [ZoneDatabase] {registrations : List (String × Kind)} {name : String}
    (hkind : Factory.lastKind? registrations (Text.upper name) = some (.literal .text))
    (allowAnyName : Option Bool) (registry : Option ZoneRegistry) (leniency : Leniency)
    (parameters : List Parameter) (value : String) :
    ((ofRegistrations registrations allowAnyName registry name parameters value).build
        leniency).result =
      .ok (.literal ⟨.text, Text.upper name, parameters, Text.unescape (Text.trim value)⟩) :=
  build_ofRegistrations leniency hkind allowAnyName registry parameters value

/-- A text property built from an escaped text has the text as its value, without the blanks at its
ends that are no line feeds. Any text property is equal to the one built from its value, escaped.
-/
theorem build_escape [ZoneDatabase] {registrations : List (String × Kind)} {name : String}
    (hkind : Factory.lastKind? registrations (Text.upper name) = some (.literal .text))
    (allowAnyName : Option Bool) (registry : Option ZoneRegistry) (leniency : Leniency)
    (parameters : List Parameter) :
    let build (value : String) : Except Fault Property :=
      ((ofRegistrations registrations allowAnyName registry name parameters value).build
        leniency).result
    (∀ text, build (Text.escape text) =
        .ok (.literal ⟨.text, Text.upper name, parameters, Text.trimBare text⟩)) ∧
      ∀ raw, ∃ property again, build raw = .ok property ∧
        build (Text.escape property.value) = .ok again ∧
        (again.agrees leniency property).result = .ok true := by
  intro build
  have hbuild (value : String) : build value =
      .ok (.literal ⟨.text, Text.upper name, parameters, Text.unescape (Text.trim value)⟩) :=
    build_text hkind allowAnyName registry leniency parameters value
  constructor
  · intro text
    rw [hbuild, Text.unescape_trim_escape]
  · intro raw
    refine ⟨_, _, hbuild raw, hbuild _, ?_⟩
    -- The value that was read of a trimmed text loses nothing when it is written and read again.
    rw [Property.value, Text.unescape_trim_escape_unescape_trim]
    simp [Property.agrees]

/-- A note between blanks keeps its leading line feed. -/
theorem build_escape_note :
    Factory.lastKind? [("Comment", .literal .text)] (Text.upper "comment") =
        some (.literal .text) ∧
      ((ofRegistrations [("Comment", .literal .text)] none none "comment" []
        (Text.escape "\t\n tea, milk; C:\\new ")).build .strict).result =
        .ok (.literal ⟨.text, "COMMENT", [], "\n tea, milk; C:\\new"⟩) := by
  have hkind : Factory.lastKind? [("Comment", .literal .text)] (Text.upper "comment") =
    some (.literal .text) := by decide +kernel
  have hname : Text.upper "comment" = "COMMENT" := by decide +kernel
  have hvalue : Text.trimBare "\t\n tea, milk; C:\\new " = "\n tea, milk; C:\\new" := by decide
  have hbuilt := (build_escape hkind none none .strict []).1 "\t\n tea, milk; C:\\new "
  rw [hname, hvalue] at hbuilt
  exact ⟨hkind, hbuilt⟩

end ContentLine.Builder
