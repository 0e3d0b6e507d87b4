import ContentLine.Builder
import Mathlib.Data.List.Basic
import Mathlib.Data.List.Induction

/-!
# Consulting factories

Factories are asked for a property one after the other, all with the same question. One that fails
is the last to be asked. Each property that takes the place of an earlier one is noted with both
factories.

## Main definitions

* `Consultation.ofFactories`: the factories that support a name, with their answers.
* `Consultation.upToFault`: those of them that are asked.
* `Consultation.transcript`, `Consultation.created`: all that happens while they are asked, and the
  properties they create.
* `Consultation.ask`, `Consultation.conclusion`: what asking one factory does, and asking all up to
  the first fault.

## Main results

* `Consultation.filterMap_override?`: each property after the first is noted with the one just
  before it.
* `Consultation.conclusion_append_singleton`: what one more factory adds.
-/

namespace ContentLine

/-- A factory with what it answers when it is asked for a property. -/
structure Consultation where
  /-- The position among all factories. -/
  position : Nat
  /-- The label of the factory. -/
  factory : String
  /-- What the factory does and answers. -/
  answer : Action (Option Property)

namespace Consultation

/-- The factories that support a name, in order, with their answers to one and the same question. -/
def ofFactories (factories : List Factory) (leniency : Leniency) (name : String)
    (parameters : List Parameter) (value : String) : List Consultation :=
  (factories.zipIdx.filter fun (factory, _) => factory.supports name).map
    fun (factory, position) => ⟨position, factory.label, factory.create leniency parameters value⟩

/-- The fault of a factory that fails. -/
def fault? (consultation : Consultation) : Option Fault :=
  match consultation.answer.result with
  | .error fault => some fault
  | .ok _ => none

/-- The property of a factory that creates one. -/
def candidate? (consultation : Consultation) : Option Builder.Candidate :=
  match consultation.answer.result with
  | .ok (some property) => some ⟨property, consultation.factory⟩
  | .ok none | .error _ => none

/-- The consultations up to and including the first that fails. -/
def upToFault (consultations : List Consultation) : List Consultation :=
  (consultations.takeWhile fun consultation => consultation.fault?.isNone) ++
    (consultations.find? fun consultation => consultation.fault?.isSome).toList

/-- The property created last before a position. -/
def latestBefore? (asked : List Consultation) (position : Nat) : Option Builder.Candidate :=
  ((asked.filter fun earlier => earlier.position < position).filterMap candidate?).getLast?

/-- The note of a factory whose property takes the place of an earlier one. -/
def override? (name : String) (best : Option Builder.Candidate) (consultation : Consultation) :
    Option Note :=
  consultation.candidate?.bind fun later =>
    best.map fun earlier => .overrides later.factory earlier.factory name

/-- All that happens when a factory is asked: the question, what the factory does by itself, and the
note if its property takes the place of an earlier one. -/
def entries (name : String) (parameters : List Parameter) (value : String)
    (best : Option Builder.Candidate) (consultation : Consultation) : List Event :=
  .create consultation.position parameters value :: consultation.answer.events ++
    ((override? name best consultation).map Event.note).toList

/-- What asking a factory does, and the property created last when it has answered, if `best` was
created last before. -/
def ask (name : String) (parameters : List Parameter) (value : String)
    (best : Option Builder.Candidate) (consultation : Consultation) :
    Action (Option Builder.Candidate) :=
  ⟨entries name parameters value best consultation,
    match consultation.fault? with
    | some fault => .error fault
    | none => .ok (consultation.candidate?.or best)⟩

/-- All that happens while factories are asked one after the other. -/
def transcript (name : String) (parameters : List Parameter) (value : String)
    (asked : List Consultation) : List Event :=
  asked.flatMap fun consultation =>
    entries name parameters value (latestBefore? asked consultation.position) consultation

/-- The properties created by the factories that are asked, in order. -/
def created (asked : List Consultation) : List Builder.Candidate :=
  asked.filterMap candidate?

/-- What asking factories up to the first fault does, and how it ends: with the fault, or with the
property created last. -/
def conclusion (name : String) (parameters : List Parameter) (value : String)
    (consultations : List Consultation) : Action (Option Builder.Candidate) :=
  ⟨transcript name parameters value (upToFault consultations),
    match consultations.findSome? fault? with
    | some fault => .error fault
    | none => .ok (created (upToFault consultations)).getLast?⟩

/-! ## The consultations of a list of factories -/

section OfFactories

variable {factories : List Factory} {leniency : Leniency} {name : String}
  {parameters : List Parameter} {value : String}

theorem ofFactories_append_singleton (factories : List Factory) (factory : Factory) :
    ofFactories (factories ++ [factory]) leniency name parameters value =
      ofFactories factories leniency name parameters value ++
        if factory.supports name then
          [⟨factories.length, factory.label, factory.create leniency parameters value⟩]
        else [] := by
  rw [ofFactories, List.zipIdx_append, List.filter_append, List.map_append, ofFactories]
  by_cases hsupports : factory.supports name <;> simp [hsupports]

theorem position_lt_of_mem_ofFactories {consultation : Consultation}
    (h : consultation ∈ ofFactories factories leniency name parameters value) :
    consultation.position < factories.length := by
  obtain ⟨⟨factory, position⟩, hentry, rfl⟩ := List.mem_map.mp h
  exact List.snd_lt_of_mem_zipIdx (List.mem_filter.mp hentry).1

/-- The positions increase, so no factory stands twice. -/
theorem pairwise_ofFactories :
    (ofFactories factories leniency name parameters value).Pairwise
      fun earlier later => earlier.position < later.position := by
  induction factories using List.reverseRecOn with
  | nil => exact List.Pairwise.nil
  | append_singleton factories factory ih =>
    rw [ofFactories_append_singleton]
    refine List.pairwise_append.mpr ⟨ih, ?_, fun earlier hearlier later hlater => ?_⟩
    · split <;> simp
    · split at hlater
      · rw [List.mem_singleton.mp hlater]
        exact position_lt_of_mem_ofFactories hearlier
      · cases hlater

end OfFactories

/-! ## Those that are asked -/

variable {consultations : List Consultation} {consultation : Consultation}

theorem upToFault_cons (consultation : Consultation) (rest : List Consultation) :
    upToFault (consultation :: rest) =
      consultation :: if consultation.fault?.isSome then [] else upToFault rest := by
  rw [upToFault, List.takeWhile_cons, List.find?_cons]
  cases hfault : consultation.fault? <;> simp [upToFault]

theorem upToFault_isPrefix (consultations : List Consultation) :
    upToFault consultations <+: consultations := by
  induction consultations with
  | nil => exact List.prefix_rfl
  | cons consultation rest ih =>
    rw [upToFault_cons]
    refine List.cons_prefix_cons.mpr ⟨rfl, ?_⟩
    split
    · exact List.nil_prefix
    · exact ih

/-- Without a fault so far those that follow are asked as well, up to their first fault. -/
theorem upToFault_append_of_none (h : ∀ consultation ∈ consultations, consultation.fault? = none)
    (more : List Consultation) :
    upToFault (consultations ++ more) = consultations ++ upToFault more := by
  induction consultations with
  | nil => rfl
  | cons consultation rest ih =>
    obtain ⟨hfirst, hrest⟩ := List.forall_mem_cons.mp h
    rw [List.cons_append, upToFault_cons, hfirst, ih hrest]
    rfl

/-- After a fault no more are asked. -/
theorem upToFault_append_of_fault {fault : Fault} (h : consultations.findSome? fault? = some fault)
    (more : List Consultation) : upToFault (consultations ++ more) = upToFault consultations := by
  induction consultations with
  | nil => cases h
  | cons consultation rest ih =>
    rw [List.cons_append, upToFault_cons, upToFault_cons]
    cases hfirst : consultation.fault? with
    | some found => rfl
    | none =>
      rw [List.findSome?_cons, hfirst] at h
      rw [ih h]

/-- A fault that is met is the first one. -/
theorem findSome?_eq_of_mem_upToFault {fault : Fault}
    (hmem : consultation ∈ upToFault consultations) (hfault : consultation.fault? = some fault) :
    consultations.findSome? fault? = some fault := by
  induction consultations with
  | nil => cases hmem
  | cons first rest ih =>
    rw [upToFault_cons] at hmem
    rw [List.findSome?_cons]
    cases hfirst : first.fault? with
    | some found =>
      rw [hfirst] at hmem
      obtain rfl : consultation = first := List.mem_singleton.mp hmem
      exact hfirst.symm.trans hfault
    | none =>
      rw [hfirst] at hmem
      refine ih ((List.mem_cons.mp hmem).resolve_left ?_)
      rintro rfl
      rw [hfirst] at hfault
      cases hfault

/-- If no fault is met, there is none. -/
theorem findSome?_eq_none_of_upToFault
    (h : ∀ consultation ∈ upToFault consultations, consultation.fault? = none) :
    consultations.findSome? fault? = none := by
  induction consultations with
  | nil => rfl
  | cons first rest ih =>
    rw [upToFault_cons] at h
    have hfirst := h first List.mem_cons_self
    rw [List.findSome?_cons, hfirst]
    refine ih fun consultation hconsultation => h consultation ?_
    rw [hfirst]
    exact List.mem_cons_of_mem _ hconsultation

/-! ## What happens meanwhile -/

variable {asked : List Consultation} {later : Consultation} {name : String}
  {parameters : List Parameter} {value : String}

theorem created_append_singleton (asked : List Consultation) (later : Consultation) :
    created (asked ++ [later]) = created asked ++ later.candidate?.toList := by
  rw [created, List.filterMap_append]
  cases hlater : later.candidate? <;> simp [created, hlater]

/-- A later consultation does not change what was created before. -/
theorem latestBefore?_append_singleton {position : Nat} (h : position ≤ later.position) :
    latestBefore? (asked ++ [later]) position = latestBefore? asked position := by
  simp [latestBefore?, Nat.not_lt.mpr h]

/-- Before a later consultation everything so far was created. -/
theorem latestBefore?_of_forall_lt
    (h : ∀ earlier ∈ asked, earlier.position < later.position) :
    latestBefore? (asked ++ [later]) later.position = (created asked).getLast? := by
  rw [latestBefore?_append_singleton (Nat.le_refl _), latestBefore?,
    List.filter_eq_self.mpr fun earlier hearlier => decide_eq_true (h earlier hearlier), created]

/-- What happens when a later factory is asked comes after all that happened before. -/
theorem transcript_append_singleton
    (h : ∀ earlier ∈ asked, earlier.position < later.position) :
    transcript name parameters value (asked ++ [later]) =
      transcript name parameters value asked ++
        entries name parameters value (created asked).getLast? later := by
  rw [transcript, List.flatMap_append, List.flatMap_singleton, latestBefore?_of_forall_lt h,
    transcript]
  congr 1
  refine List.flatMap_congr fun earlier hearlier => ?_
  rw [latestBefore?_append_singleton (Nat.le_of_lt (h earlier hearlier))]

/-- The notes of a list of properties, each of which takes the place of the one before it. -/
def replacements (name : String) (created : List Builder.Candidate) : List Note :=
  created.zipWith (fun earlier later => .overrides later.factory earlier.factory name) created.tail

theorem replacements_append_singleton (created : List Builder.Candidate)
    (later : Builder.Candidate) :
    replacements name (created ++ [later]) =
      replacements name created ++
        (created.getLast?.map fun earlier =>
          Note.overrides later.factory earlier.factory name).toList := by
  induction created with
  | nil => rfl
  | cons first rest ih =>
    cases rest with
    | nil => rfl
    | cons second rest => simpa [replacements] using ih

/-- Each property created after the first is noted once, with the one created just before it. -/
theorem filterMap_override?
    (h : asked.Pairwise fun earlier later => earlier.position < later.position) :
    (asked.filterMap fun consultation =>
        override? name (latestBefore? asked consultation.position) consultation) =
      replacements name (created asked) := by
  -- The induction is on the factory asked last, whose note depends on those asked before it.
  induction asked using List.reverseRecOn with
  | nil => rfl
  | append_singleton asked later ih =>
    obtain ⟨hasked, -, hlater⟩ := List.pairwise_append.mp h
    have hlater : ∀ earlier ∈ asked, earlier.position < later.position :=
      fun earlier hearlier => hlater earlier hearlier later (List.mem_singleton_self later)
    -- The notes before it stay, since each looks only at what comes earlier.
    have hkept : (asked.filterMap fun earlier =>
          override? name (latestBefore? (asked ++ [later]) earlier.position) earlier) =
        asked.filterMap fun earlier =>
          override? name (latestBefore? asked earlier.position) earlier :=
      List.filterMap_congr fun earlier hearlier => by
        rw [latestBefore?_append_singleton (Nat.le_of_lt (hlater earlier hearlier))]
    rw [List.filterMap_append, hkept, ih hasked, created_append_singleton]
    cases hcreated : later.candidate? with
    | none => simp [override?, hcreated]
    | some candidate =>
      rw [Option.toList_some, replacements_append_singleton]
      congr 1
      simp only [override?, hcreated, latestBefore?_of_forall_lt hlater, List.filterMap_cons,
        List.filterMap_nil, Option.bind_some]
      cases (created asked).getLast? <;> rfl

/-- One more factory is asked if none failed so far, and its property takes the place of the one
created last. -/
theorem conclusion_append_singleton
    (h : ∀ earlier ∈ consultations, earlier.position < later.position) :
    conclusion name parameters value (consultations ++ [later]) =
      conclusion name parameters value consultations >>= fun best =>
        ask name parameters value best later := by
  rw [conclusion, List.findSome?_append, conclusion]
  cases hfault : consultations.findSome? fault? with
  | some fault =>
    rw [upToFault_append_of_fault hfault]
    rfl
  | none =>
    have hnone := List.findSome?_eq_none_iff.mp hfault
    have hall : upToFault consultations = consultations := by
      simpa [upToFault] using upToFault_append_of_none hnone []
    have hlast : upToFault [later] = [later] := by
      rw [upToFault_cons]
      split <;> rfl
    rw [upToFault_append_of_none hnone, hall, hlast, transcript_append_singleton h,
      created_append_singleton]
    cases hlater : later.fault? with
    | some fault => simp [ask, hlater]
    | none => cases hcreated : later.candidate? <;> simp [ask, hlater, hcreated]

end Consultation

end ContentLine
