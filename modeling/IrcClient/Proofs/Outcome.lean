import IrcClient.Outcome

/-!
# Reading outcomes

What each way of making an outcome puts into it, kind by kind.
-/

namespace IrcClient.Outcome

@[simp] theorem lines_empty : empty.lines = [] := rfl

@[simp] theorem writes_empty : empty.writes = [] := rfl

@[simp] theorem events_empty : empty.events = [] := rfl

@[simp] theorem lines_send (line : String) : (send line).lines = [line] := rfl

@[simp] theorem writes_send (line : String) : (send line).writes = [] := rfl

@[simp] theorem events_send (line : String) : (send line).events = [] := rfl

@[simp] theorem writes_write (w : Write) : (write w).writes = [w] := rfl

@[simp] theorem events_write (w : Write) : (write w).events = [] := rfl

@[simp] theorem writes_writing (ws : List Write) : (writing ws).writes = ws := rfl

@[simp] theorem events_writing (ws : List Write) : (writing ws).events = [] := rfl

@[simp] theorem lines_emit (e : Event) : (emit e).lines = [] := rfl

@[simp] theorem writes_emit (e : Event) : (emit e).writes = [] := rfl

@[simp] theorem events_emit (e : Event) : (emit e).events = [e] := rfl

@[simp] theorem lines_only (p : Bool) (o : Outcome) :
    (only p o).lines = if p then o.lines else [] := by
  cases p <;> rfl

@[simp] theorem writes_only (p : Bool) (o : Outcome) :
    (only p o).writes = if p then o.writes else [] := by
  cases p <;> rfl

@[simp] theorem events_only (p : Bool) (o : Outcome) :
    (only p o).events = if p then o.events else [] := by
  cases p <;> rfl

end IrcClient.Outcome
