import ContentLine.Builder
import ContentLine.Session.Specification

/-!
# Steps of a session

A session works on named variables, which hold registries, factories, builders and properties. Its
steps are commands and blocks; a block runs its steps in a mode of leniency.

## Main definitions

- `FactorySource`, `SettingSpec`: factories and builder settings as commands give them.
- `Command`: a step that is not a block, `Step` a step.
- `Answer`: what a step answers.
-/

namespace ContentLine.Session

/-- Where factories come from. -/
inductive FactorySource where
  /-- The factories of the standard properties. -/
  | standard
  /-- A variable: a scripted factory, or all factories of a list at that moment. -/
  | stored (id : String)
  /-- A new factory of one name and kind. -/
  | named (name : String) (kind : Kind)
deriving DecidableEq, Repr

/-- A setting of a builder. -/
inductive SettingSpec where
  | factories (sources : List FactorySource)
  /-- The registry of a variable, or none. -/
  | registry (id : Option String)
  /-- A setting that refers to no variable. -/
  | plain (setting : Builder.Setting)

/-- A change of a property. -/
inductive ChangeSpec where
  /-- Store a value made anew, or none. -/
  | store (value : Option TemporalSpec)
  /-- Take the registry of a variable, or the standard one. -/
  | setRegistry (id : Option String)
  /-- A change that refers to no variable and makes nothing. -/
  | plain (change : Property.Change)

/-- What a command answers about a changed property. -/
inductive ChangeReport where
  | property
  | parameters
  /-- The default of its registry. -/
  | defaultTzid
deriving DecidableEq, Repr

/-- A step that is not a block. The variable named first is the one that the command is about. -/
inductive Command where
  | registry (id : String) (registry : RegistrySpec)
  /-- The questions put to a registry so far. -/
  | lookups (id : String)
  | scripted (id : String) (script : ScriptSpec)
  /-- The questions put to a scripted factory so far. -/
  | calls (id : String)
  /-- Bind an empty list of factories. -/
  | factoryList (id : String)
  /-- Register factories for names of one kind. -/
  | register (id : String) (names : List String) (kind : Kind)
  | addFactories (id : String) (sources : List FactorySource)
  /-- The labels of a list of factories. -/
  | listFactories (id : String)
  | leniency
  | builder (id : String) (allowAnyName : Option Bool)
  | configure (id : String) (settings : List SettingSpec)
  /-- Build a property, and bind it if a variable is given. -/
  | build (id : String) (target : Option String)
  /-- Bind a property with the registry of a variable, or the standard one. -/
  | property (id : String) (kind : Kind) (name : String) (parameters : List Parameter)
      (value : String) (registry : Option String)
  | state (id : String)
  | change (id : String) (change : ChangeSpec) (report : ChangeReport)
  | read (id : String)
  | validate (id : String)
  /-- The first parameter of a name. -/
  | firstParameter (id name : String)
  | allParameters (id name : String)
  | copy (id target : String)
  | equal (a b : String)
  /-- Whether a property is equal to something that is no property. -/
  | equalOther (a : String)
  /-- Whether two date properties have one hash. -/
  | equalHash (a b : String)
  /-- The unambiguous text of a property. -/
  | describe (id : String)

/-- A step of a session. -/
inductive Step where
  | command (command : Command)
  /-- Run steps in a mode. If faults propagate, the first one ends the block and is its result. -/
  | block (mode : Leniency.Mode) (propagate : Bool) (steps : List Step)

/-- What a step answers. -/
inductive Answer where
  | nothing
  | text (text : String)
  | texts (texts : List String)
  | number (number : Nat)
  | flag (flag : Bool)
  | leniency (leniency : Leniency)
  | property (property : Property)
  /-- A parameter, if there is one. -/
  | parameter (parameter : Option Parameter)
  | parameters (parameters : List Parameter)
  /-- The questions put to a factory. -/
  | calls (calls : List (List Parameter × String))
  /-- What a property reads as, if it has a value. -/
  | reading (reading : Option Reading)
  /-- The answers and faults of the steps of a block. -/
  | attempts (attempts : List (Except Fault Answer))
  /-- The answers of the steps of a block without a fault. -/
  | answers (answers : List Answer)

end ContentLine.Session
