import IrcClient.Proofs.Handling.Hearing
import IrcClient.Proofs.Network.Naming

/-!
# Queries and their replies

A query is answered by a notice that wraps up the reply as the query itself was wrapped up. Two
things keep this from going on forever. A query is read back from what it is written as, so a
reply is taken for what it is. And a notice is never answered: whatever the nickname of the
sender makes of the rest of the line, it begins as a notice (`unanswered_of_notice`), and that is
all that the other end has to know of it. An exchange between two clients is over after one round
of replies (`Party.exchange_said`).
-/

namespace IrcClient

/-! ## Queries that were read -/

namespace Ctcp

/-- A query as it is read: it has a name, in upper case and in one word. -/
structure Read (query : Ctcp) : Prop where
  ne : query.command ≠ ""
  noSpace : ' ' ∉ query.command.toList
  upper : IrcClient.upper query.command = query.command

theorem read_of_parse? {body : String} {query : Ctcp} (h : parse? body = some query) :
    query.Read := by
  unfold parse? at h
  split at h
  · cases h
  · rename_i c rest _
    split at h
    · cases h
    · dsimp only at h
      obtain ⟨hspace, -⟩ := of_cut?_getD
        (a := ((cut? ' ' ((dropLast? delimiter rest).getD rest)).getD (_, [])).1) rfl
      split at h
      · cases h
      · rename_i hne
        obtain rfl := Option.some.inj h
        refine ⟨?_, ?_, upper_upper _⟩
        · rw [ne_eq, ← String.toList_eq_nil_iff, toList_upper, String.toList_ofList,
            List.map_eq_nil_iff, ← List.isEmpty_iff]
          exact hne
        · rw [toList_upper, String.toList_ofList, List.mem_map]
          rintro ⟨x, hx, he⟩
          rw [toUpper_eq_iff (by decide)] at he
          exact hspace (he ▸ hx)

/-- Whatever a query was read from, it is read again from what it is wrapped up as. -/
theorem Read.parse?_encode {query : Ctcp} (h : query.Read) :
    parse? (encode query.command query.params) = some query := by
  rw [Ctcp.parse?_encode h.ne h.noSpace, h.upper]

end Ctcp

/-! ## Lines that begin with a word -/

/-- A line as it is handed on: with a source in front of it or without, and with its end. -/
def relayed (source : Option String) (line ending : String) : String :=
  (source.map (":" ++ · ++ " ")).getD "" ++ line ++ ending

theorem Message.parseCommand_word (tags : List Tag) (source : Option Source) {word : List Char}
    (hne : word ≠ []) (hspace : ' ' ∉ word) (rest : List Char) :
    parseCommand tags source (word ++ ' ' :: rest) = some ⟨tags, source,
      upper (String.ofList word), (argsFrom [] rest).map String.ofList⟩ := by
  have hempty : word.isEmpty = false := List.isEmpty_eq_false_iff.mpr hne
  unfold parseCommand
  rw [cut?_eq_some_iff.mpr ⟨rfl, hspace⟩, Option.getD_some]
  dsimp only
  rw [hempty, if_neg Bool.false_ne_true]

/-- A line with its source in front ends as the line does. -/
theorem dropEndWhile_relayed (source : Option String) {line ending : String} (hne : line ≠ "")
    (hlast : ∀ c ∈ line.toList.getLast?, isLineBreak c = false)
    (hending : ∀ c ∈ ending.toList, isLineBreak c = true) :
    dropEndWhile isLineBreak (relayed source line ending).toList =
      ((source.map (":" ++ · ++ " ")).getD "").toList ++ line.toList := by
  have hnil : line.toList ≠ [] := by
    rw [ne_eq, String.toList_eq_nil_iff]
    exact hne
  unfold relayed
  rw [String.toList_append, String.toList_append]
  refine dropEndWhile_of_getLast? (fun c hc => ?_) hending
  rw [List.getLast?_append, List.getLast?_eq_some_getLast hnil, Option.some_or,
    ← List.getLast?_eq_some_getLast hnil] at hc
  exact hlast c hc

/-- A line that begins with its command is read alike from whomever it is handed on. -/
theorem parse?_relayed {source : Option String} (hsource : ∀ s ∈ source, ' ' ∉ s.toList)
    {line ending : String} {first : Char} {rest : List Char} (hline : line.toList = first :: rest)
    (hfirst : isBlank first = false ∧ first ≠ ':' ∧ first ≠ '@')
    (hlast : ∀ c ∈ line.toList.getLast?, isLineBreak c = false)
    (hending : ∀ c ∈ ending.toList, isLineBreak c = true) :
    Message.parse? (relayed source line ending) =
      Message.parseCommand [] (source.map (Source.parse ·.toList)) line.toList := by
  obtain ⟨hblank, hcolon, hat⟩ := hfirst
  have hbegun : Begun line.toList := by
    rw [hline]
    rintro c ⟨⟩
    exact hblank
  have hne : line ≠ "" := by
    rintro rfl
    cases hline
  cases source with
  | none =>
      have htext : dropBlanks (dropEndWhile isLineBreak (relayed none line ending).toList) =
          line.toList := by
        rw [dropEndWhile_relayed none hne hlast hending]
        exact dropBlanks_eq_self hbegun
      rw [parse?_of_noAt htext (by simp [hline]) (by simp [hline, hat]),
        parseSource_of_noColon [] (by simp [hline, hcolon])]
      rfl
  | some s =>
      have htext : dropBlanks (dropEndWhile isLineBreak (relayed (some s) line ending).toList) =
          ':' :: (s.toList ++ ' ' :: line.toList) := by
        have hfront : ((Option.map (":" ++ · ++ " ") (some s)).getD "").toList ++ line.toList =
            ':' :: (s.toList ++ ' ' :: line.toList) := by
          simp
        have hbegun' : Begun (':' :: (s.toList ++ ' ' :: line.toList)) := by
          rintro c ⟨⟩
          decide
        rw [dropEndWhile_relayed (some s) hne hlast hending, hfront]
        exact dropBlanks_eq_self hbegun'
      -- the source ends at the first space, and the line begins behind it
      have htoken : token? (s.toList ++ ' ' :: line.toList) = some (s.toList, line.toList) :=
        token?_spaced (hsource s rfl) 0 hbegun
      rw [parse?_of_noAt htext (List.cons_ne_nil _ _) (by simp), Message.parseSource, htoken,
        Option.bind_some]
      rfl

/-! ## Lines that are not answered -/

/-- Whether a line is read, however it is handed on, and is never answered: whoever reads it sends
nothing. -/
def Unanswered (line : String) : Prop :=
  ∀ (source : Option String) (ending : String), (∀ s ∈ source, ' ' ∉ s.toList) →
    (∀ c ∈ ending.toList, isLineBreak c = true) →
    ∃ msg, Message.parse? (relayed source line ending) = some msg ∧
      ∀ p net, (process p net msg).2.lines = []

namespace Handling

theorem lines_only_receive (b : Bool) (net : Network) (kind : LineKind)
    (sender target text : String) :
    (Outcome.only b (receive net kind sender target text)).lines = [] := by
  cases b <;> rfl

theorem lines_notice (net : Network) (msg : Message) : (notice net msg).2.lines = [] := by
  unfold notice
  split
  · dsimp only
    split
    · rfl
    · exact lines_only_receive _ net _ _ _ _
  · rfl

/-- A query is answered by one notice, or not at all. -/
theorem lines_privmsg (p : Persona) (net : Network) (msg : Message) :
    (privmsg p net msg).2.lines = [] ∨ ∃ sender command reply,
      (privmsg p net msg).2.lines = ["NOTICE " ++ sender ++ " :" ++ Ctcp.encode command reply] := by
  unfold privmsg
  split
  · dsimp only
    split
    · split
      · exact .inl (lines_only_receive _ net _ _ _ _)
      · rename_i query _ _
        unfold answerQuery
        split
        · rename_i reply _
          rw [Outcome.lines_only]
          split
          · exact .inr ⟨_, query.command, reply, rfl⟩
          · exact .inl rfl
        · exact .inl rfl
    · exact .inl (lines_only_receive _ net _ _ _ _)
  · exact .inl rfl

end Handling

theorem unanswered_of_notice {line : String} (hline : "NOTICE ".toList <+: line.toList)
    (hlast : ∀ c ∈ line.toList.getLast?, isLineBreak c = false) : Unanswered line := by
  intro source ending hsource hending
  obtain ⟨rest, hrest⟩ := hline
  have hline : line.toList = "NOTICE".toList ++ ' ' :: rest := hrest.symm
  have hparse := parse?_relayed hsource hline (by decide) hlast hending
  rw [hline, Message.parseCommand_word [] _ (by decide) (by decide)] at hparse
  refine ⟨_, hparse, fun p net => ?_⟩
  rw [process_of_ofCommand? (v := .notice) rfl]
  exact Handling.lines_notice net _

/-- A reply is a notice, and the delimiter at its end is not taken off. -/
theorem unanswered_reply (sender command reply : String) :
    Unanswered ("NOTICE " ++ sender ++ " :" ++ Ctcp.encode command reply) := by
  refine unanswered_of_notice ?_ ?_
  · rw [String.append_assoc, String.append_assoc, String.toList_append]
    exact List.prefix_append _ _
  · intro c hc
    rw [String.toList_append, Ctcp.toList_encode, ← List.cons_append, ← List.append_assoc,
      List.getLast?_concat] at hc
    cases hc
    decide

/-- Whatever is said to a client, it sends one line at most, and one that nobody answers. -/
theorem unanswered_process (p : Persona) (net : Network) {msg : Message}
    (h : msg.command = "PRIVMSG") : (process p net msg).2.lines.length ≤ 1 ∧
      ∀ line ∈ (process p net msg).2.lines, Unanswered line := by
  have hprocess : process p net msg = Handling.privmsg p net msg :=
    process_of_ofCommand? (v := .privmsg) (by rw [h]; rfl)
  rw [hprocess]
  rcases Handling.lines_privmsg p net msg with hlines | ⟨sender, command, reply, hlines⟩
  · rw [hlines]
    exact ⟨Nat.zero_le 1, nofun⟩
  · rw [hlines]
    refine ⟨Nat.le_refl 1, fun line hline => ?_⟩
    rw [List.mem_singleton.mp hline]
    exact unanswered_reply sender command reply

/-! ## Two clients -/

/-- A client among others: what it says of itself and knows, and how its lines are handed on. -/
structure Party where
  persona : Persona
  network : Network
  source : Option String
  ending : String
  source_noSpace : ∀ s ∈ source, ' ' ∉ s.toList
  ending_breaks : ∀ c ∈ ending.toList, isLineBreak c = true

namespace Party

variable {a b : Party} {lines : List String}

/-- The messages that the lines of a client are read as. -/
def said (a : Party) (lines : List String) : List Message :=
  lines.filterMap fun line => Message.parse? (relayed a.source line a.ending)

/-- The client once messages have come in. -/
def told (b : Party) (msgs : List Message) : Party :=
  { b with network := b.network.run (msgs.map (.line b.persona)) }

/-- What goes to and fro when one client has sent some lines: in each round the other one sends its
answers to what it was sent in the round before. -/
def exchange : Nat → Party → Party → List String → List (List String)
  | 0, _, _, lines => [lines]
  | n + 1, a, b, lines =>
    lines :: exchange n (b.told (a.said lines)) a (b.network.sent b.persona (a.said lines))

/-- No answers, however many rounds there are. -/
theorem exchange_nil : ∀ (n : Nat) (a b : Party), exchange n a b [] = List.replicate (n + 1) []
  | 0, _, _ => rfl
  | n + 1, a, b => congrArg ([] :: ·) (exchange_nil n b a)

theorem sent_unanswered (a : Party) (p : Persona) : ∀ {lines : List String},
    (∀ line ∈ lines, Unanswered line) → ∀ net : Network, net.sent p (a.said lines) = []
  | [], _, _ => rfl
  | line :: lines, h, net => by
      rw [List.forall_mem_cons] at h
      obtain ⟨msg, hparse, hsilent⟩ := h.1 a.source a.ending a.source_noSpace a.ending_breaks
      have hsaid : a.said (line :: lines) = msg :: a.said lines := List.filterMap_cons_some hparse
      rw [hsaid, Network.sent, hsilent p net, List.nil_append]
      exact sent_unanswered a p h.2 _

/-- The answers to what is said are as many as that at most, and nobody answers them. -/
theorem unanswered_sent (p : Persona) : ∀ {msgs : List Message} (net : Network),
    (∀ msg ∈ msgs, msg.command = "PRIVMSG") →
      (net.sent p msgs).length ≤ msgs.length ∧ ∀ line ∈ net.sent p msgs, Unanswered line
  | [], _, _ => ⟨Nat.le_refl 0, nofun⟩
  | msg :: msgs, net, h => by
      rw [List.forall_mem_cons] at h
      obtain ⟨hfew, hunanswered⟩ := unanswered_process p net h.1
      obtain ⟨hfew', hunanswered'⟩ := unanswered_sent p (process p net msg).1 h.2
      rw [Network.sent]
      refine ⟨?_, fun line hline => ?_⟩
      · rw [List.length_append, List.length_cons]
        omega
      · rcases List.mem_append.mp hline with hline | hline
        · exact hunanswered line hline
        · exact hunanswered' line hline

/-- An exchange that begins with something said has its replies, and then nothing more. -/
theorem exchange_said (n : Nat) (b : Party) (h : ∀ msg ∈ a.said lines, msg.command = "PRIVMSG") :
    ∃ replies, replies.length ≤ lines.length ∧
      exchange (n + 1) a b lines = lines :: replies :: List.replicate n [] := by
  obtain ⟨hfew, hunanswered⟩ := unanswered_sent b.persona b.network h
  have hsaid : (a.said lines).length ≤ lines.length := List.length_filterMap_le _ _
  refine ⟨b.network.sent b.persona (a.said lines), Nat.le_trans hfew hsaid, ?_⟩
  cases n with
  | zero => rfl
  | succ n =>
      rw [exchange, exchange, sent_unanswered _ _ hunanswered, exchange_nil]

end Party

namespace Ctcp

/--
**Queries come to an end.** A query is read back from what it is wrapped up as, with its name in
upper case and its parameters as they were. What has been read from any body is read again from
what it is wrapped up as, so nothing is lost by passing it on. And whoever says whatever to a
client is answered by one line at most, which nobody answers: not the one who is meant, nor any
other client that it is handed on to, whatever it knows, under whatever source it comes. So of two
clients that hear nothing but each other, both are silent after one round of replies.
-/
theorem queries_end :
    (∀ command params : String, command ≠ "" → ' ' ∉ command.toList →
      parse? (encode command params) = some ⟨upper command, params⟩) ∧
    (∀ body query, parse? body = some query →
      parse? (encode query.command query.params) = some query) ∧
    (∀ (p : Persona) (net : Network) (msg : Message), msg.command = "PRIVMSG" →
      (process p net msg).2.lines.length ≤ 1 ∧
      ∀ line ∈ (process p net msg).2.lines, Unanswered line) ∧
    ∀ (a b : Party) (lines : List String), (∀ msg ∈ a.said lines, msg.command = "PRIVMSG") →
      ∀ n, ∃ replies, replies.length ≤ lines.length ∧
        Party.exchange (n + 1) a b lines = lines :: replies :: List.replicate n [] :=
  ⟨fun _ params hne hspace => parse?_encode hne hspace params,
    fun _ _ h => (read_of_parse? h).parse?_encode,
    fun p net _ h => unanswered_process p net h,
    fun _ b _ h n => Party.exchange_said n b h⟩

/-- The nickname looks like a command, and the parameters go on behind a delimiter. -/
theorem queries_end_ping :
    let p : Persona := ⟨"1.0", "noon"⟩
    let net := Network.new 1 "Libera" "ada"
    let body := "\x01ping  NICK\x01 \x01"
    let msg : Message := ⟨[], some ⟨":CAP", some "u", some "h"⟩, "PRIVMSG", ["ada", body]⟩
    let query := "PRIVMSG ada :" ++ body
    let reply := "NOTICE :CAP :\x01PING  NICK\x01 \x01"
    "ping" ≠ "" ∧ ' ' ∉ "ping".toList ∧
    parse? (encode "ping" " NICK\x01 ") = some ⟨"PING", " NICK\x01 "⟩ ∧
    parse? body = some ⟨"PING", " NICK\x01 "⟩ ∧
    parse? (encode "PING" " NICK\x01 ") = some ⟨"PING", " NICK\x01 "⟩ ∧
    msg.command = "PRIVMSG" ∧ (process p net msg).2.lines = [reply] ∧ Unanswered reply ∧
    ∃ a b : Party, a.said [query] = [msg] ∧
      ∃ replies, replies.length ≤ 1 ∧ Party.exchange 3 a b [query] = [[query], replies, [], []] := by
  intro p net body msg query reply
  have hne : "ping" ≠ "" := by decide
  have hspace : ' ' ∉ "ping".toList := by decide
  have hbody : parse? body = some ⟨"PING", " NICK\x01 "⟩ := by decide
  have hlines : (process p net msg).2.lines = [reply] := by decide +kernel
  have hending : ∀ c ∈ "\r\n".toList, isLineBreak c = true := List.all_eq_true.mp (by decide)
  have hsource : ∀ s ∈ some ":CAP!u@h", ' ' ∉ s.toList := by
    rintro s ⟨⟩
    decide
  let a : Party := ⟨p, Network.new 1 "Libera" ":CAP", some ":CAP!u@h", "\r\n", hsource, hending⟩
  let b : Party := ⟨p, net, none, "\r\n", nofun, hending⟩
  have hparse : Message.parse? (relayed (some ":CAP!u@h") query "\r\n") = some msg := by
    decide +kernel
  have hsaid : a.said [query] = [msg] := List.filterMap_cons_some hparse
  have hprivmsg : ∀ msg ∈ a.said [query], msg.command = "PRIVMSG" := by
    rw [hsaid]
    rintro _ hmsg
    rw [List.mem_singleton.mp hmsg]
  obtain ⟨hencode, hread, hreply, hexchange⟩ := queries_end
  have hping : parse? (encode "ping" " NICK\x01 ") = some ⟨"PING", " NICK\x01 "⟩ := by
    rw [hencode "ping" " NICK\x01 " hne hspace]
    decide
  have hunanswered : Unanswered reply :=
    (hreply p net msg rfl).2 reply (by rw [hlines]; exact List.mem_singleton_self reply)
  exact ⟨hne, hspace, hping, hbody, hread body ⟨"PING", " NICK\x01 "⟩ hbody, rfl, hlines,
    hunanswered, a, b, hsaid, hexchange a b [query] hprivmsg 2⟩

end Ctcp

end IrcClient
