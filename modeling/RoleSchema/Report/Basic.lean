import RoleSchema.Report.Diagnostic

/-!
# Reports

A run reports events: diagnostics, which are its findings, and notes about its progress.
`Reporting ε α` is a run that reports a list of events and ends with a value or a fault; the events
stay when the run fails, and `recover` goes on after a fault.
-/

namespace RoleSchema

/-- The levels of a log, from the least to the most severe. -/
inductive Level where
  | trace
  | debug
  | info
  | success
  | warning
  | error
  | critical
  deriving DecidableEq, Repr

namespace Level

/-- How severe a level is. -/
def severity : Level → Nat
  | .trace => 5
  | .debug => 10
  | .info => 20
  | .success => 25
  | .warning => 30
  | .error => 40
  | .critical => 50

/-- The name of a level. -/
def name : Level → String
  | .trace => "TRACE"
  | .debug => "DEBUG"
  | .info => "INFO"
  | .success => "SUCCESS"
  | .warning => "WARNING"
  | .error => "ERROR"
  | .critical => "CRITICAL"

/-- The level with a name. -/
def ofName? (s : String) : Option Level :=
  [trace, debug, info, success, warning, error, critical].find? fun l => l.name == s

end Level

/-- What is reported on the way. -/
inductive Event where
  /-- A finding about the model. -/
  | diagnostic (d : Diagnostic)
  /-- A note about the progress. -/
  | note (level : Level) (text : String)
  deriving DecidableEq, Repr

namespace Event

/-- The finding of an event, if it is one. -/
def diagnostic? : Event → Option Diagnostic
  | .diagnostic d => some d
  | .note _ _ => none

/-- The level at which an event is logged. -/
def level : Event → Level
  | .diagnostic d => match d.severity with
    | .warning => .warning
    | .error => .error
  | .note l _ => l

/-- The text that is logged. -/
def text : Event → String
  | .diagnostic d => d.summary
  | .note _ t => t

end Event

/-- The findings among events. -/
def diagnosticsOf (events : List Event) : List Diagnostic := events.filterMap Event.diagnostic?

/-- A run that reports events and ends with a value or a fault. -/
structure Reporting (ε α : Type) where
  events : List Event
  result : Except ε α

namespace Reporting

variable {ε ε' α β : Type}

/-- The run that only gives a value. -/
protected def pure (a : α) : Reporting ε α := ⟨[], .ok a⟩

/-- One run after another; a fault ends both. -/
protected def bind (x : Reporting ε α) (f : α → Reporting ε β) : Reporting ε β :=
  match x.result with
  | .ok a => ⟨x.events ++ (f a).events, (f a).result⟩
  | .error e => ⟨x.events, .error e⟩

instance : Monad (Reporting ε) where
  pure := Reporting.pure
  bind := Reporting.bind

/-- Reports one event. -/
def report (e : Event) : Reporting ε Unit := ⟨[e], .ok ()⟩

/-- The run with its value mapped. -/
protected def map (f : α → β) (x : Reporting ε α) : Reporting ε β :=
  ⟨x.events, x.result.map f⟩

/-- Reports a finding. -/
def find (d : Diagnostic) : Reporting ε Unit := report (.diagnostic d)

/-- Reports a note. -/
def note (level : Level) (text : String) : Reporting ε Unit := report (.note level text)

/-- Ends with a fault. -/
def fail (e : ε) : Reporting ε α := ⟨[], .error e⟩

/-- A result that was reached without a report. -/
def ofExcept (x : Except ε α) : Reporting ε α := ⟨[], x⟩

/-- Goes on after a fault. -/
def recover (x : Reporting ε α) (handle : ε → Reporting ε' α) : Reporting ε' α :=
  match x.result with
  | .ok a => ⟨x.events, .ok a⟩
  | .error e => ⟨x.events ++ (handle e).events, (handle e).result⟩

/-- The run with its faults renamed. -/
def mapFault (f : ε → ε') (x : Reporting ε α) : Reporting ε' α :=
  ⟨x.events, x.result.mapError f⟩

/-- The findings of a run. -/
def diagnostics (x : Reporting ε α) : List Diagnostic := diagnosticsOf x.events

/-! ## What the operations report -/

@[simp] theorem pure_eq (a : α) : (pure a : Reporting ε α) = ⟨[], .ok a⟩ := rfl

@[simp] theorem bind_ok (es : List Event) (a : α) (f : α → Reporting ε β) :
    ((⟨es, .ok a⟩ : Reporting ε α) >>= f) = ⟨es ++ (f a).events, (f a).result⟩ := rfl

@[simp] theorem bind_error (es : List Event) (e : ε) (f : α → Reporting ε β) :
    ((⟨es, .error e⟩ : Reporting ε α) >>= f) = ⟨es, .error e⟩ := rfl

instance : LawfulMonad (Reporting ε) :=
  LawfulMonad.mk' _
    (by rintro α ⟨es, _ | a⟩ <;> simp [Functor.map, Reporting.bind, Reporting.pure])
    (by intros; simp)
    (by
      rintro α β γ ⟨es, _ | a⟩ f g
      · rfl
      · simp only [bind_ok]
        rcases h : f a with ⟨es', _ | b⟩ <;> simp [List.append_assoc])

end Reporting

end RoleSchema
