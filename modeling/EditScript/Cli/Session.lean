import EditScript.Log

/-!
# Sessions

A run of the program as it proceeds: what it logs, what it prints, and how it ends. Nothing
that has been printed is taken back when something fails behind it.
-/

namespace EditScript.Cli

structure Session (α : Type) where
  events : List Event
  output : Text
  outcome : Except Failure α

namespace Session

variable {α β : Type}

instance : Monad Session where
  pure value := ⟨[], [], .ok value⟩
  bind first next :=
    match first.outcome with
    | .ok value =>
      let later := next value
      ⟨first.events ++ later.events, first.output ++ later.output, later.outcome⟩
    | .error failure => ⟨first.events, first.output, .error failure⟩

/-- What the library does prints nothing. -/
def ofTraced (work : Traced α) : Session α :=
  ⟨work.events, [], work.outcome⟩

def ofExcept (result : Except Failure α) : Session α :=
  ⟨[], [], result⟩

def write (text : Text) : Session Unit :=
  ⟨[], text, .ok ()⟩

def print (line : Text) : Session Unit :=
  write (line ++ ['\n'])

end Session

end EditScript.Cli
