import IrcClient.Proofs.Handling.Change
import IrcClient.Proofs.Handling.EventTypes
import IrcClient.Proofs.Handling.Hearing

/-!
# Replies to WHOIS

Nine handlers answer for the replies to WHOIS. What they do is one thing (`Network.reply`): a
reply finds the collection of the nickname that it is about and adds what it says
(`Whois.told`), the last one takes the collection away and announces it, and a reply that someone
is away is not enough to open one. No other line touches a collection (`whois_process_other`) or
announces one (`type_of_other`).

So a collection only ever depends on the replies about its own nickname
(`whois?_reply`, `whois?_reply_other`).
-/

namespace IrcClient

/-! ## The replies -/

/-- The replies to a query; the last of them closes the collection. -/
def whoisCommands : List String :=
  ["311", "312", "313", "317", "319", "330", "671", "301", "318"]

/-- Whether a line is a reply about a nickname, in any spelling. -/
def Message.isReplyAbout (n : String) (msg : Message) : Bool :=
  whoisCommands.contains msg.command && (msg.arg 1).any (sameName n)

/-- What is known of a user once another reply has come. -/
def Whois.told (w : Whois) (msg : Message) : Whois :=
  match msg.command with
  | "311" => { w with username := msg.arg 2, host := msg.arg 3, realname := msg.arg 5 }
  | "312" => { w with server := msg.arg 2, serverInfo := msg.arg 3 }
  | "313" => { w with operator := true }
  | "317" => { w with
      idleSecs := (msg.arg 2).bind Handling.parseSeconds
      signon := (msg.arg 3).bind Handling.parseMoment }
  | "319" => { w with
      channels := w.channels ++ (asciiWords ((msg.arg 2).getD "").toList).map String.ofList }
  | "330" => { w with account := msg.arg 2 }
  | "671" => { w with secure := true }
  | "301" => { w with away := msg.arg 2 }
  | _ => w

namespace Network

/-- The event that announces a collection. -/
def whoisEvent (net : Network) (w : Whois) : Event :=
  (net.event "whois.received").set "whois" w.toDatum

/-- What a reply about a nickname does. -/
def reply (net : Network) (nick : String) (msg : Message) : Network × Outcome :=
  if msg.command = "318" then
    match net.whois? nick with
    | none => (net, .empty)
    | some w => (net.closeWhois nick, .emit (net.whoisEvent w))
  else if msg.command = "301" ∧ net.whois? nick = none then (net, .empty)
  else (net.updateWhois nick (·.told msg), .empty)

end Network

variable {p : Persona} {net : Network} {msg : Message} {nick n : String}

theorem process_of_collect {command : String} {v : Verb} {f : Message → Whois → Whois}
    (h : msg.command = command) (hverb : Verb.ofCommand? command = some v)
    (hv : v.handler p = Handling.collect f) (hf : ∀ w : Whois, f msg w = w.told msg) :
    ∃ f, f msg = (·.told msg) ∧ process p net msg = Handling.collect f net msg := by
  refine ⟨f, funext hf, ?_⟩
  rw [process_of_ofCommand? (h ▸ hverb), hv]

/-- A reply is collected, or says that someone is away, or is the last one. -/
theorem process_whois_cases (p : Persona) (net : Network) (h : msg.command ∈ whoisCommands) :
    (msg.command ≠ "318" ∧ msg.command ≠ "301" ∧
      ∃ f, f msg = (·.told msg) ∧ process p net msg = Handling.collect f net msg) ∨
    (msg.command = "301" ∧ process p net msg = Handling.away net msg) ∨
    (msg.command = "318" ∧ process p net msg = Handling.endOfWhois net msg) := by
  simp only [whoisCommands, List.mem_cons, List.not_mem_nil, or_false] at h
  rcases h with h | h | h | h | h | h | h | h | h
  · exact .inl ⟨by simp [h], by simp [h],
      process_of_collect (v := .whoisUser) h rfl rfl fun w => by simp [Whois.told, h]⟩
  · exact .inl ⟨by simp [h], by simp [h],
      process_of_collect (v := .whoisServer) h rfl rfl fun w => by simp [Whois.told, h]⟩
  · exact .inl ⟨by simp [h], by simp [h],
      process_of_collect (v := .whoisOperator) h rfl rfl fun w => by simp [Whois.told, h]⟩
  · exact .inl ⟨by simp [h], by simp [h],
      process_of_collect (v := .whoisIdle) h rfl rfl fun w => by simp [Whois.told, h]⟩
  · exact .inl ⟨by simp [h], by simp [h],
      process_of_collect (v := .whoisChannels) h rfl rfl fun w => by simp [Whois.told, h]⟩
  · exact .inl ⟨by simp [h], by simp [h],
      process_of_collect (v := .whoisAccount) h rfl rfl fun w => by simp [Whois.told, h]⟩
  · exact .inl ⟨by simp [h], by simp [h],
      process_of_collect (v := .whoisSecure) h rfl rfl fun w => by simp [Whois.told, h]⟩
  · exact .inr (.inl ⟨h, by rw [process_of_ofCommand? (v := .away) (by rw [h]; rfl)]; rfl⟩)
  · exact .inr (.inr ⟨h, by rw [process_of_ofCommand? (v := .endOfWhois) (by rw [h]; rfl)]; rfl⟩)

/-- What the handlers of the replies do is one thing. -/
theorem process_of_reply (p : Persona) (net : Network) (hcommand : msg.command ∈ whoisCommands)
    (hnick : msg.arg 1 = some nick) : process p net msg = net.reply nick msg := by
  rcases process_whois_cases p net hcommand with ⟨hlast, haway, f, hf, he⟩ | ⟨h, he⟩ | ⟨h, he⟩
  · rw [he, Handling.collect, hnick, Network.reply, if_neg hlast,
      if_neg (not_and_of_not_left _ haway), ← hf]
  · have htold : (·.told msg) = fun w : Whois => { w with away := msg.arg 2 } := by
      funext w
      simp [Whois.told, h]
    rw [he, Handling.away, hnick, Network.reply, if_neg (by simp [h]), htold]
    cases hw : net.whois? nick with
    | none => simp [hw, h]
    | some w => simp [hw]
  · rw [he, Handling.endOfWhois, hnick, Network.reply, if_pos h]
    rfl

/-- A reply that names nobody does nothing. -/
theorem process_of_unnamed (p : Persona) (net : Network) (hcommand : msg.command ∈ whoisCommands)
    (hnick : msg.arg 1 = none) : process p net msg = (net, .empty) := by
  rcases process_whois_cases p net hcommand with ⟨-, -, f, -, he⟩ | ⟨-, he⟩ | ⟨-, he⟩
  · rw [he, Handling.collect, hnick]
  · rw [he, Handling.away, hnick]
  · rw [he, Handling.endOfWhois, hnick]

/-! ## Other lines -/

theorem Verb.command_of_whois {command : String} {v : Verb} (h : ofCommand? command = some v)
    (hv : v ∈ collecting ∨ v = .endOfWhois) : command ∈ whoisCommands := by
  have htable : ∀ v : Verb, v ∈ collecting ∨ v = .endOfWhois →
      ∀ c ∈ v.commands, c ∈ whoisCommands := by
    intro v
    cases v <;> decide
  exact htable v hv command (mem_commands h)

/-- Other lines leave the collections alone. -/
theorem whois_process_other (p : Persona) (net : Network) (h : msg.command ∉ whoisCommands) :
    (process p net msg).1.whois = net.whois := by
  obtain he | ⟨v, hverb, hc⟩ := changes_process p net msg
  · rw [he]
  · have hv : ¬(v ∈ Verb.collecting ∨ v = .endOfWhois) := fun hv =>
      h (Verb.command_of_whois hverb hv)
    generalize (process p net msg).1 = net' at hc
    cases hc with
    | collected _ hv' _ _ _ => exact absurd (.inl hv') hv
    | collectionEnded _ => exact absurd (.inr rfl) hv
    | nothing _ | welcomed | rejected _ | announced _ | edited _ _ _ _ | listEnded _ _ _ _
    | quit _ _ | renamed _ _ _ _ => rfl

/-- And they announce none. -/
theorem type_of_other (p : Persona) (net : Network) (h : msg.command ∉ whoisCommands) {e : Event}
    (he : e ∈ (process p net msg).2.events) : e.type ≠ "whois.received" := by
  have htable : ∀ v : Verb, "whois.received" ∈ v.eventTypes → v = .endOfWhois := by
    intro v
    cases v <;> decide
  unfold process at he
  split at he
  · cases he
  · rename_i v hverb
    intro htype
    have hv : v = .endOfWhois := htable v (htype ▸ eventsIn_handler p v net msg e he)
    exact h (Verb.command_of_whois hverb (.inr hv))

/-! ## The collection of a nickname -/

namespace Network

/-- A reply about someone else leaves it alone. -/
theorem whois?_reply_other (msg : Message) (h : fold nick ≠ fold n) :
    (net.reply nick msg).1.whois? n = net.whois? n := by
  unfold reply
  split
  · split
    · rfl
    · simp only [closeWhois, whois?, Table.get?_erase, if_neg h]
  · split
    · rfl
    · simp only [updateWhois, whois?, Table.get?_insert, if_neg h]

/-- The collection after a reply about the nickname: the last reply takes it away. -/
def collectionAfter (nick : String) (w : Option Whois) (msg : Message) : Option Whois :=
  if msg.command = "318" then none
  else if msg.command = "301" then w.map (·.told msg)
  else some ((w.getD (.new nick)).told msg)

theorem whois?_reply (msg : Message) (h : fold nick = fold n) :
    (net.reply nick msg).1.whois? n = collectionAfter nick (net.whois? n) msg := by
  have hsame : net.whois? nick = net.whois? n := by rw [whois?, h, whois?]
  unfold reply collectionAfter
  rw [hsame]
  split
  · cases hw : net.whois? n with
    | none => exact hw
    | some w => simp only [closeWhois, whois?, Table.get?_erase, if_pos h]
  · split
    · rename_i hopen
      rw [if_pos hopen.1, hopen.2, Option.map_none]
    · rename_i hopen
      have hupdated : (net.updateWhois nick (·.told msg)).whois? n =
          some (((net.whois? n).getD (.new nick)).told msg) := by
        rw [whois?, updateWhois, Table.get?_insert, if_pos h, hsame]
      rw [hupdated]
      split
      · rename_i haway
        obtain ⟨w, hw⟩ := Option.ne_none_iff_exists'.mp (not_and.mp hopen haway)
        rw [hw, Option.getD_some, Option.map_some]
      · rfl

/-- The last reply announces the collection, if there is one, and no other reply does. -/
theorem events_reply (net : Network) (nick : String) (msg : Message) :
    (net.reply nick msg).2.events =
      if msg.command = "318" then ((net.whois? nick).map net.whoisEvent).toList else [] := by
  unfold reply
  split
  · cases net.whois? nick <;> rfl
  · split <;> rfl

end Network

end IrcClient
