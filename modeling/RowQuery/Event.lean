import RowQuery.Query.Basic
import RowQuery.Text.Quoted

/-!
# Log events

An event is what the library reports of a run, as data. `Logged α` is a value together with the
events on the way to it, in order; `Attempt ε α` may also fail, and keeps the events either way.
-/
namespace RowQuery

inductive Event
  | parsed (query : Query)
  | hiddenSelected (recordType : String) (fields : List String)
  | applyingSelect (recordType : String) (fields : List String)
  | applyingTop (recordType : String) (count : UInt64)
  | applyingSkip (recordType : String) (count : UInt64)
  | applyingOrderBy (recordType : String) (order : SortOrder)
  | adapting (recordType url : String)
  | backendFailed (detail : String)
deriving DecidableEq, Repr

inductive Level
  | debug
  | warn
  | error
deriving DecidableEq, Repr

def Level.word : Level → String
  | debug => "DEBUG"
  | warn => "WARN"
  | error => "ERROR"

namespace Event

def level : Event → Level
  | hiddenSelected .. => .warn
  | backendFailed .. => .error
  | _ => .debug

def message : Event → String
  | parsed .. => "parsed OData query string"
  | hiddenSelected .. => "rejected $select of hidden fields"
  | applyingSelect .. => "applying $select"
  | applyingTop .. => "applying $top"
  | applyingSkip .. => "applying $skip"
  | applyingOrderBy .. => "applying $orderby"
  | adapting .. => "adapting query"
  | backendFailed .. => "query backend error"

def listText (fields : List String) : String :=
  "[" ++ ", ".intercalate (fields.map Text.quote) ++ "]"

def optionText {α : Type} (text : α → String) : Option α → String
  | none => "None"
  | some a => "Some(" ++ text a ++ ")"

def fields : Event → List (String × String)
  | parsed q =>
    [("select", optionText listText q.select), ("top", optionText toString q.top),
      ("skip", optionText toString q.skip), ("orderby", q.orderDisplay)]
  | hiddenSelected recordType fields =>
    [("record_type", recordType), ("fields", listText fields)]
  | applyingSelect recordType fields =>
    [("record_type", recordType), ("fields", listText fields)]
  | applyingTop recordType count => [("record_type", recordType), ("top", toString count)]
  | applyingSkip recordType count => [("record_type", recordType), ("skip", toString count)]
  | applyingOrderBy recordType order => [("record_type", recordType), ("order", order.display)]
  | adapting recordType url => [("record_type", recordType), ("url", url)]
  | backendFailed detail => [("error", detail)]

end Event

structure Logged (α : Type) where
  value : α
  events : List Event := []

namespace Logged

variable {α β : Type}

instance : Monad Logged where
  pure a := ⟨a, []⟩
  bind x f := ⟨(f x.value).value, x.events ++ (f x.value).events⟩

@[simp] theorem value_pure (a : α) : (pure a : Logged α).value = a := rfl
@[simp] theorem events_pure (a : α) : (pure a : Logged α).events = [] := rfl
@[simp] theorem value_bind (x : Logged α) (f : α → Logged β) :
    (x >>= f).value = (f x.value).value := rfl
@[simp] theorem events_bind (x : Logged α) (f : α → Logged β) :
    (x >>= f).events = x.events ++ (f x.value).events := rfl

end Logged

abbrev Attempt (ε α : Type) := ExceptT ε Logged α

namespace Attempt

variable {ε α : Type}

def result (x : Attempt ε α) : Except ε α := Logged.value x

def events (x : Attempt ε α) : List Event := Logged.events x

def emit (e : Event) : Attempt ε Unit := ExceptT.mk ⟨.ok (), [e]⟩

def ofExcept (x : Except ε α) : Attempt ε α := ExceptT.mk ⟨x, []⟩

def mapError {δ : Type} (f : ε → δ) (x : Attempt ε α) : Attempt δ α :=
  ExceptT.mk ⟨x.result.mapError f, x.events⟩

def within {m : Type → Type} [MonadLiftT Logged m] (x : Attempt ε α) : ExceptT ε m α :=
  ExceptT.mk (liftM (ExceptT.run x))

end Attempt
end RowQuery
