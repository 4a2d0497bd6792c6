import IrcClient.Proofs.Handling.Hearing
import IrcClient.Proofs.Network.Naming
import Mathlib.Data.List.Nodup

/-!
# Nicknames that are refused

Until it is welcomed, the client answers the refusal of a nickname by asking for another one, the
refused one with an underscore. Each request is answered in its turn, so the nicknames that are
asked for had better not repeat.

Whether they do is in the hands of the server. The client takes the refused nickname from the
refusal, and only if it names none from its own memory, so two requests are the same exactly if
two refusals are about the same nickname (`retries_distinct_iff`). A server that gives the
nickname in full, or none at all, is asked for longer and longer ones. One that cuts nicknames
short is asked for the same one forever (`retry_repeated`).
-/

namespace IrcClient

/-- Whether a line refuses a nickname. -/
def Message.IsRefusal (msg : Message) : Prop :=
  msg.command = "432" ∨ msg.command = "433"

/-- The nicknames that refusals are about, where the client is called by one when the first of
them comes: a refusal that names none is about the nickname that was asked for last. -/
def refusedNames : String → List Message → List String
  | _, [] => []
  | nick, msg :: msgs =>
    let refused := (msg.arg 1).getD nick
    refused :: refusedNames (refused ++ "_") msgs

/-- The nicknames that are asked for in answer to refusals. -/
def askedNames (nick : String) (msgs : List Message) : List String :=
  (refusedNames nick msgs).map (· ++ "_")

/-- Whether no refusal names a shorter nickname than the one that was asked for last. -/
def NamedInFull : String → List Message → Prop
  | _, [] => True
  | nick, msg :: msgs =>
    (∀ named ∈ msg.arg 1, nick.length ≤ named.length) ∧
      NamedInFull ((msg.arg 1).getD nick ++ "_") msgs

theorem askedNames_cons (nick : String) (msg : Message) (msgs : List Message) :
    askedNames nick (msg :: msgs) =
      ((msg.arg 1).getD nick ++ "_") :: askedNames ((msg.arg 1).getD nick ++ "_") msgs :=
  rfl

/-! ## Names that get longer -/

theorem length_underscored (name : String) : (name ++ "_").length = name.length + 1 := by
  rw [String.length_append]
  rfl

theorem length_le_of_named {nick : String} {msg : Message}
    (h : ∀ named ∈ msg.arg 1, nick.length ≤ named.length) :
    nick.length ≤ ((msg.arg 1).getD nick).length := by
  cases hnamed : msg.arg 1 with
  | none => exact Nat.le_refl _
  | some named => exact h named hnamed

/-- What is asked for is longer than the nickname that the client began with. -/
theorem NamedInFull.length_lt : ∀ {msgs : List Message} {nick : String}, NamedInFull nick msgs →
    ∀ name ∈ askedNames nick msgs, nick.length < name.length
  | [], _, _, _, hname => by cases hname
  | msg :: msgs, nick, h, name, hname => by
      obtain ⟨hnamed, hrest⟩ := h
      have hfirst : nick.length < ((msg.arg 1).getD nick ++ "_").length := by
        have hle := length_le_of_named hnamed
        rw [length_underscored]
        omega
      rw [askedNames_cons] at hname
      rcases List.mem_cons.mp hname with rfl | hname
      · exact hfirst
      · exact Nat.lt_trans hfirst (hrest.length_lt name hname)

/-- So no nickname is asked for twice, and not the one that it began with. -/
theorem NamedInFull.nodup : ∀ {msgs : List Message} {nick : String}, NamedInFull nick msgs →
    (nick :: askedNames nick msgs).Nodup
  | [], nick, _ => List.nodup_singleton nick
  | msg :: msgs, nick, h => by
      refine List.nodup_cons.mpr ⟨fun hmem => ?_, ?_⟩
      · exact absurd (h.length_lt nick hmem) (Nat.lt_irrefl _)
      · rw [askedNames_cons]
        exact h.2.nodup

theorem underscored_injective : Function.Injective (· ++ "_" : String → String) := by
  intro a b h
  have hlist := congrArg String.toList h
  simp only [String.toList_append] at hlist
  exact String.toList_injective (List.append_cancel_right hlist)

/-! ## Refusals, one after another -/

namespace Network

/-- The network as it was, but for the nickname that the client goes by. -/
def goingBy (net : Network) (nick : String) : Network :=
  { net with nickname := nick }

variable {net : Network} {refusals : List Message}

/-- A refusal before the welcome is answered by one request, for the nickname that the client
goes by from then on. -/
theorem process_refusal (p : Persona) (h : net.registered = false) {msg : Message}
    (hmsg : msg.IsRefusal) :
    process p net msg = (net.goingBy ((msg.arg 1).getD net.nickname ++ "_"),
      .send ("NICK " ++ ((msg.arg 1).getD net.nickname ++ "_"))) := by
  have hverb : Verb.ofCommand? msg.command = some .nickRejected := by
    rcases hmsg with hcommand | hcommand <;> rw [hcommand] <;> rfl
  rw [process_of_ofCommand? hverb]
  show Handling.nickRejected net msg = _
  have hno : ¬net.registered = true := Bool.eq_false_iff.mp h
  unfold Handling.nickRejected
  dsimp only
  rw [if_neg hno]
  rfl

theorem sent_refusals (p : Persona) : ∀ {refusals : List Message} {net : Network},
    net.registered = false → (∀ msg ∈ refusals, msg.IsRefusal) →
      net.sent p refusals = (askedNames net.nickname refusals).map ("NICK " ++ ·)
  | [], _, _, _ => rfl
  | msg :: msgs, net, h, hrefusals => by
      rw [List.forall_mem_cons] at hrefusals
      have hnext : (net.goingBy ((msg.arg 1).getD net.nickname ++ "_")).registered = false := h
      rw [sent, process_refusal p h hrefusals.1, sent_refusals p hnext hrefusals.2]
      rfl

theorem run_refusals (p : Persona) : ∀ {refusals : List Message} {net : Network},
    net.registered = false → (∀ msg ∈ refusals, msg.IsRefusal) →
      net.run (refusals.map (.line p)) =
        net.goingBy ((askedNames net.nickname refusals).getLast?.getD net.nickname)
  | [], _, _, _ => rfl
  | msg :: msgs, net, h, hrefusals => by
      rw [List.forall_mem_cons] at hrefusals
      show (process p net msg).1.run (msgs.map (.line p)) = _
      have hnext : (net.goingBy ((msg.arg 1).getD net.nickname ++ "_")).registered = false := h
      rw [process_refusal p h hrefusals.1, run_refusals p hnext hrefusals.2, askedNames_cons,
        List.getLast?_cons, Option.getD_some]
      rfl

/--
**Retries.** However many refusals come before the welcome, each is answered by one request, and
the client goes by the nickname that it asked for last; nothing else changes. The nicknames that
are asked for differ from each other and from the one that the client began with exactly if no
nickname is refused twice and none is refused that an underscore makes the one it began with. So
they do where each refusal names the nickname in full, or a longer one, or none.
-/
theorem retries_distinct_iff (p : Persona) (h : net.registered = false)
    (hrefusals : ∀ msg ∈ refusals, msg.IsRefusal) :
    let refused := refusedNames net.nickname refusals
    let asked := askedNames net.nickname refusals
    net.sent p refusals = asked.map ("NICK " ++ ·) ∧
    net.run (refusals.map (.line p)) = net.goingBy (asked.getLast?.getD net.nickname) ∧
    ((net.nickname :: asked).Nodup ↔
      refused.Nodup ∧ ∀ name ∈ refused, name ++ "_" ≠ net.nickname) ∧
    (NamedInFull net.nickname refusals → (net.nickname :: asked).Nodup) := by
  intro refused asked
  refine ⟨sent_refusals p h hrefusals, run_refusals p h hrefusals, ?_, fun hnamed => hnamed.nodup⟩
  have hnodup : asked.Nodup ↔ refused.Nodup := List.nodup_map_iff underscored_injective
  have hmem : net.nickname ∉ asked ↔ ∀ name ∈ refused, name ++ "_" ≠ net.nickname := by
    show net.nickname ∉ refused.map (· ++ "_") ↔ _
    rw [List.mem_map]
    exact ⟨fun hno name hname he => hno ⟨name, hname, he⟩,
      fun hno ⟨name, hname, he⟩ => hno name hname he⟩
  rw [List.nodup_cons, hnodup, hmem]
  exact and_comm

/-- One refusal names the nickname, one names none, and one names what was made of it. -/
theorem retries_distinct_iff_named :
    let net := new 1 "Libera" "ada"
    let refusal command args : Message := ⟨[], none, command, args⟩
    let refusals := [refusal "433" ["*", "ada", "Nickname is already in use"],
      refusal "432" ["*"], refusal "433" ["*", "ada__", "Nickname is already in use"]]
    net.registered = false ∧ (∀ msg ∈ refusals, msg.IsRefusal) ∧
    NamedInFull net.nickname refusals ∧
    net.sent ⟨"1.0", "noon"⟩ refusals = ["NICK ada_", "NICK ada__", "NICK ada___"] ∧
    ["ada", "ada_", "ada__", "ada___"].Nodup := by
  intro net refusal refusals
  have hrefusals : ∀ msg ∈ refusals, msg.IsRefusal := by
    unfold Message.IsRefusal
    decide
  have hnamed : NamedInFull net.nickname refusals := by
    refine ⟨?_, ?_, ?_, trivial⟩ <;> decide
  have hnew : net.registered = false := rfl
  obtain ⟨hsent, -, -, hdistinct⟩ := retries_distinct_iff ⟨"1.0", "noon"⟩ hnew hrefusals
  exact ⟨hnew, hrefusals, hnamed, hsent, hdistinct hnamed⟩

/-- A server that has room for nine characters refuses a nickname of nine and its successor, which
it cuts down to nine. The client asks for the same successor again. -/
theorem retry_repeated :
    let net := new 1 "Libera" "kestrel99"
    let refusal : Message := ⟨[], some ⟨"irc.libera.chat", none, none⟩, "433",
      ["*", "kestrel99", "Nickname is already in use"]⟩
    net.registered = false ∧ refusal.IsRefusal ∧
    net.sent ⟨"1.0", "noon"⟩ [refusal, refusal] = ["NICK kestrel99_", "NICK kestrel99_"] ∧
    ¬(net.sent ⟨"1.0", "noon"⟩ [refusal, refusal]).Nodup := by
  intro net refusal
  refine ⟨rfl, .inr rfl, rfl, ?_⟩
  decide

end Network

end IrcClient
