import EditScript.Failure

/-!
# The log

What the library does is logged as it happens. A traced computation has an
outcome, which may be a failure, and the events logged up to it; computations
are put together in sequence, and the first failure ends them.
-/

namespace EditScript

inductive Event where
  | parsed (operation : Operation)
  | skipped (text : Text) (fault : ParseFault)
  /-- A script is derived. A target that is not given counts as empty. -/
  | derived (source : Text) (target : Option Text) (script : Script)
  | merged (deletion insertion move : Operation)
  | ambiguous (deletion : Operation) (text : Text)
  | applied (operation : Operation) (result : Text)
  | failed (command : String)
  deriving DecidableEq, Repr

inductive Level where
  | debug
  | warning
  deriving DecidableEq, Repr

namespace Level

def name : Level → String
  | debug => "DEBUG"
  | warning => "WARNING"

def rank : Level → Nat
  | debug => 10
  | warning => 30

end Level

namespace Event

def level : Event → Level
  | skipped _ _ => .warning
  | _ => .debug

/-- The part of the library that logs an event. -/
def logger : Event → String
  | parsed _ => "editops.operations.parser"
  | skipped _ _ => "editops.operations.parser"
  | derived _ _ _ => "editops.engine.differ"
  | merged _ _ _ => "editops.engine.adjuster"
  | ambiguous _ _ => "editops.engine.adjuster"
  | applied _ _ => "editops.engine.script"
  | failed _ => "editops.cli"

def message : Event → Text
  | parsed operation =>
    "Parsed ".toList ++ operation.kind.name.toList ++ " operation: ".toList ++
      operation.canonical
  | skipped text fault =>
    "Skipping unparsable operation ".toList ++ Text.quoted text ++ ": ".toList ++
      fault.message.toList
  | derived source target script =>
    "Diff ".toList ++ Text.quoted source ++ " -> ".toList ++
      (target.map Text.quoted).getD (Text.quotedList []) ++ ": ".toList ++
      Text.quotedList (script.map Operation.canonical)
  | merged deletion insertion move =>
    "Merged ".toList ++ deletion.canonical ++ " and ".toList ++ insertion.canonical ++
      " into ".toList ++ move.canonical
  | ambiguous deletion text =>
    "Not merging ".toList ++ deletion.canonical ++ ": ".toList ++ Text.quoted text ++
      " is introduced more than once".toList
  | applied operation result =>
    "Applied ".toList ++ operation.canonical ++ ": ".toList ++ Text.quoted result
  | failed command => ("Command " ++ command ++ " failed").toList

def line (event : Event) : Text :=
  event.level.name.toList ++ ' ' :: event.logger.toList ++ ": ".toList ++ event.message

end Event

/-- A computation with the events that it logs. -/
structure Traced (α : Type) where
  events : List Event
  outcome : Except Failure α

namespace Traced

variable {α β : Type}

instance : Monad Traced where
  pure value := ⟨[], .ok value⟩
  bind first next :=
    match first.outcome with
    | .ok value => ⟨first.events ++ (next value).events, (next value).outcome⟩
    | .error failure => ⟨first.events, .error failure⟩

def log (event : Event) : Traced Unit :=
  ⟨[event], .ok ()⟩

def logAll (events : List Event) : Traced Unit :=
  ⟨events, .ok ()⟩

def fail (failure : Failure) : Traced α :=
  ⟨[], .error failure⟩

def ofExcept (result : Except Failure α) : Traced α :=
  ⟨[], result⟩

@[simp] theorem outcome_pure (value : α) : (pure value : Traced α).outcome = .ok value :=
  rfl

@[simp] theorem outcome_log (event : Event) : (log event).outcome = .ok () :=
  rfl

@[simp] theorem outcome_ofExcept (result : Except Failure α) :
    (ofExcept result).outcome = result :=
  rfl

/-- The outcome of a sequence does not depend on what is logged. -/
@[simp] theorem outcome_bind (first : Traced α) (next : α → Traced β) :
    (first >>= next).outcome = first.outcome >>= fun value => (next value).outcome := by
  cases first with
  | mk events outcome => cases outcome <;> rfl

end Traced

end EditScript
