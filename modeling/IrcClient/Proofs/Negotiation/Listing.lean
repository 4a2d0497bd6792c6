import IrcClient.Proofs.Identity
import IrcClient.Proofs.Message.RoundTrip
import IrcClient.Proofs.Negotiation.Dialogue
import Mathlib.Data.List.Basic

/-!
# Lists of capabilities

The capabilities of a server may not fit into one line. Then they come in parts, each but the last
with a `*` in front of it, and only when the last one is in the client decides whether it can
authenticate.

What it decides is a matter of the tokens alone (`Offers`): of those for authentication the first
one counts, wherever it stands. The parts that come before the last are only noted
(`dialogue_listLines`), so the same tokens lead to the same negotiation however they are divided
(`list_split_immaterial`).
-/

namespace IrcClient

/-! ## What a list offers -/

/-- The token of the capability to authenticate, with its value if it has one. -/
def saslToken (value : Option String) : String :=
  "sasl" ++ (value.map ("=" ++ ·)).getD ""

/-- Whether the value of the capability leaves room for a mechanism. -/
inductive Admits (mechanism : String) : Option String → Prop where
  /-- Nothing is said of mechanisms. -/
  | silent : Admits mechanism none
  | blank : Admits mechanism (some "")
  /-- The mechanism is listed, in letters of either case. -/
  | listed (names : List String) (hnames : ∀ name ∈ names, ',' ∉ name.toList) {name : String}
      (h : name ∈ names) (hsame : sameLetters name mechanism = true) :
      Admits mechanism (some (",".intercalate names))

/-- Whether a list of tokens offers to authenticate by a mechanism. -/
inductive Offers (mechanism : String) : List String → Prop where
  /-- The first token of the capability decides. -/
  | here {value : Option String} (h : Admits mechanism value) (rest : List String) :
      Offers mechanism (saslToken value :: rest)
  /-- Other tokens are passed over. -/
  | later {token : String} (h : ∀ value, token ≠ saslToken value) {rest : List String}
      (hrest : Offers mechanism rest) : Offers mechanism (token :: rest)

theorem toList_saslToken (value : Option String) :
    (saslToken value).toList = "sasl".toList ++ behind '=' (value.map String.toList) := by
  cases value <;> simp [saslToken]

theorem saslToken_inj {value value' : Option String} (h : saslToken value = saslToken value') :
    value = value' := by
  have htail := congrArg String.toList h
  rw [toList_saslToken, toList_saslToken, List.append_cancel_left_eq] at htail
  cases value <;> cases value' <;> simp_all [String.toList_inj]

theorem offers_saslToken {mechanism : String} {value : Option String} {rest : List String} :
    Offers mechanism (saslToken value :: rest) ↔ Admits mechanism value := by
  refine ⟨fun h => ?_, fun h => .here h rest⟩
  generalize htoken : saslToken value = token at h
  cases h with
  | here h =>
      rw [saslToken_inj htoken]
      exact h
  | later h => exact absurd htoken.symm (h value)

theorem offers_other {mechanism token : String} (htoken : ∀ value, token ≠ saslToken value)
    {rest : List String} : Offers mechanism (token :: rest) ↔ Offers mechanism rest := by
  refine ⟨fun h => ?_, .later htoken⟩
  cases h with
  | here => exact absurd rfl (htoken _)
  | later _ hrest => exact hrest

/-- The value lists a mechanism if one of its pieces is the name of it. -/
theorem admits_some {mechanism value : String} : Admits mechanism (some value) ↔ value = "" ∨
    ∃ name ∈ pieces ',' value.toList, sameLetters (String.ofList name) mechanism = true := by
  constructor
  · intro h
    cases h with
    | blank => exact .inl rfl
    | listed names hnames h hsame =>
        refine .inr ⟨_, ?_, by rwa [String.ofList_toList]⟩
        have hpieces : pieces ',' (",".intercalate names).toList = names.map String.toList := by
          rw [String.toList_intercalate]
          exact pieces_intercalate (by simpa using List.ne_nil_of_mem h)
            (List.forall_mem_map.mpr hnames)
        rw [hpieces]
        exact List.mem_map_of_mem h
  · rintro (rfl | ⟨name, hname, hsame⟩)
    · exact .blank
    · have hvalue : value = ",".intercalate ((pieces ',' value.toList).map String.ofList) := by
        rw [← String.toList_inj, String.toList_intercalate, List.map_map]
        simpa [Function.comp_def] using (intercalate_pieces ',' value.toList).symm
      rw [hvalue]
      refine .listed _ (List.forall_mem_map.mpr fun p hp => ?_) (List.mem_map_of_mem hname) hsame
      rw [String.toList_ofList]
      exact notMem_of_mem_pieces hp

namespace Negotiator

/-! ## What is read of a list -/

/-- What is noted of some tokens. A token without characters is none. -/
def offersOf (tokens : List String) : List Offer :=
  (tokens.filter (· ≠ "")).map fun token => readOffer token.toList

theorem offersOf_append (a b : List String) : offersOf (a ++ b) = offersOf a ++ offersOf b := by
  rw [offersOf, List.filter_append, List.map_append, offersOf, offersOf]

theorem readOffer_saslToken (value : Option String) :
    readOffer (saslToken value).toList = ⟨"sasl", value⟩ := by
  have hcut := cut?_behind (c := '=') (a := "sasl".toList) (by decide) (value.map String.toList)
  rw [← toList_saslToken] at hcut
  unfold readOffer
  rw [hcut]
  cases value with
  | none => rfl
  | some value => simp

theorem name_readOffer {token : String} (h : ∀ value, token ≠ saslToken value) :
    (readOffer token.toList).name ≠ "sasl" := by
  obtain ⟨name, value, htoken, hname⟩ := exists_behind '=' token.toList
  have hread : (readOffer token.toList).name = String.ofList name := by
    unfold readOffer
    rw [htoken, cut?_behind hname]
    cases value with
    | none => simp
    | some value => rfl
  intro hsasl
  refine h (value.map String.ofList) ?_
  rw [← String.toList_inj, toList_saslToken, htoken, ← hsasl, hread, String.toList_ofList]
  cases value <;> simp

theorem offersOf_saslToken (value : Option String) (rest : List String) :
    offersOf (saslToken value :: rest) = ⟨"sasl", value⟩ :: offersOf rest := by
  have hne : saslToken value ≠ "" := by
    rw [ne_eq, ← String.toList_eq_nil_iff, toList_saslToken]
    simp
  rw [offersOf, List.filter_cons_of_pos (by simpa using hne), List.map_cons, readOffer_saslToken,
    offersOf]

theorem isUsable_sasl (mechanism : String) (value : Option String) (offers : List Offer) :
    isUsable (⟨"sasl", value⟩ :: offers) mechanism = true ↔ Admits mechanism value := by
  rw [isUsable, List.find?_cons_of_pos (by simp)]
  cases value with
  | none => exact iff_of_true rfl .silent
  | some value => simp [admits_some]

theorem isUsable_other (mechanism : String) {token : String}
    (h : ∀ value, token ≠ saslToken value) (rest : List String) :
    isUsable (offersOf (token :: rest)) mechanism = isUsable (offersOf rest) mechanism := by
  by_cases hempty : token = ""
  · rw [offersOf, List.filter_cons_of_neg (by simpa using hempty), offersOf]
  · rw [offersOf, List.filter_cons_of_pos (by simpa using hempty), List.map_cons, ← offersOf,
      isUsable, List.find?_cons_of_neg (by simpa using name_readOffer h), isUsable]

/-- **The client authenticates if the tokens offer it.** -/
theorem isUsable_offersOf (mechanism : String) (tokens : List String) :
    isUsable (offersOf tokens) mechanism = true ↔ Offers mechanism tokens := by
  induction tokens with
  | nil => exact ⟨fun h => absurd h (by simp [offersOf, isUsable]), fun h => by cases h⟩
  | cons token rest ih =>
    by_cases hsasl : ∃ value, token = saslToken value
    · obtain ⟨value, rfl⟩ := hsasl
      rw [offersOf_saslToken, isUsable_sasl, offers_saslToken]
    · have hother : ∀ value, token ≠ saslToken value := fun value h => hsasl ⟨value, h⟩
      rw [isUsable_other mechanism hother, offers_other hother, ih]

/-! ## Lines -/

/-- A token of a list: no character of it divides the list. -/
def IsToken (token : String) : Prop :=
  ∀ c ∈ token.toList, isAsciiBlank c = false

instance (token : String) : Decidable (IsToken token) :=
  decidable_of_iff (token.toList.all (!isAsciiBlank ·) = true) (by simp [IsToken])

theorem isLineBreak_eq_false {c : Char} (h : isAsciiBlank c = false) : isLineBreak c = false := by
  simp only [isAsciiBlank, Bool.or_eq_false_iff] at h
  rw [isLineBreak, h.2, h.1.1.2, Bool.or_false]

/-- A part of a list, as a line to a target; `more` says that there is more to come. -/
def listLine (target : String) (more : Bool) (tokens : List String) : String :=
  "CAP " ++ target ++ " LS " ++ (if more then "* :" else ":") ++ " ".intercalate tokens

/-- The lines of a list in parts. -/
def listLines (target : String) (parts : List (List String)) (last : List String) : List String :=
  parts.map (listLine target true) ++ [listLine target false last]

/-- What such a line is read as. -/
def listMessage (target : String) (more : Bool) (tokens : List String) : Message :=
  ⟨[], none, "CAP", [target, "LS"] ++ (if more then ["*"] else []) ++ [" ".intercalate tokens]⟩

variable {target : String} {tokens : List String}

theorem readOffers_intercalate (h : ∀ token ∈ tokens, IsToken token) :
    readOffers (" ".intercalate tokens) = offersOf tokens := by
  have hwords : asciiWords (" ".intercalate tokens).toList =
      (tokens.map String.toList).filter (!·.isEmpty) := by
    rw [String.toList_intercalate]
    exact words_intercalate (by decide) (List.forall_mem_map.mpr h)
  have hblank : (tokens.map String.toList).filter (!·.isEmpty) =
      (tokens.filter (· ≠ "")).map String.toList := by
    have hne : (!·.isEmpty) ∘ String.toList = fun token : String => decide (token ≠ "") := by
      funext token
      by_cases h : token = "" <;> simp [h]
    rw [List.filter_map, hne]
  rw [readOffers, hwords, hblank, List.map_map, offersOf, Function.comp_def]

theorem render_listMessage (more : Bool) :
    (listMessage target more tokens).render = listLine target more tokens := by
  rw [← String.toList_inj]
  cases more <;> simp [listMessage, Message.render, renderArgs, listLine]

theorem wellFormed_listMessage (ht : IsMiddle target.toList) (more : Bool) :
    (listMessage target more tokens).WellFormed where
  tags := List.forall_mem_nil _
  source := nofun
  command_ne := by simp [listMessage]
  command_noSpace := by simp [listMessage]
  command_upper := show upper "CAP" = "CAP" by decide
  args := by
    have hls : IsMiddle "LS".toList := ⟨by decide, by decide, by decide⟩
    have hstar : IsMiddle "*".toList := ⟨by decide, by decide, by decide⟩
    have hargs : (listMessage target more tokens).args.dropLast =
        [target, "LS"] ++ if more then ["*"] else [] := List.dropLast_concat
    rw [hargs]
    cases more with
    | true => exact List.forall_mem_cons.mpr ⟨ht, by simpa using ⟨hls, hstar⟩⟩
    | false => exact List.forall_mem_cons.mpr ⟨ht, by simpa using hls⟩

theorem beginsWell_listMessage (more : Bool) : (listMessage target more tokens).BeginsWell where
  noBlank c hc := by
    have hhead : "CAP".toList.head? = some 'C' := by decide
    rw [← Option.some.inj (hhead.symm.trans hc)]
    decide
  noColon _ := show "CAP".toList.head? ≠ some ':' by decide
  noAt _ _ := show "CAP".toList.head? ≠ some '@' by decide

/-- A line of a list does not end in a line break, and ends in a colon if the list is empty. -/
theorem dropEndWhile_listLine (h : ∀ token ∈ tokens, IsToken token) (more : Bool) :
    dropEndWhile isLineBreak (listLine target more tokens).toList =
      (listLine target more tokens).toList := by
  have hchars : ∀ c ∈ ':' :: (" ".intercalate tokens).toList, isLineBreak c = false := by
    intro c hc
    obtain rfl | hc := List.mem_cons.mp hc
    · decide
    rw [String.toList_intercalate] at hc
    obtain rfl | ⟨_, hmem, hc⟩ := mem_intercalate hc
    · decide
    · obtain ⟨token, htoken, rfl⟩ := List.mem_map.mp hmem
      exact isLineBreak_eq_false (h token htoken c hc)
  obtain ⟨front, hline⟩ : ∃ front, (listLine target more tokens).toList =
      front ++ ':' :: (" ".intercalate tokens).toList := by
    cases more with
    | true => exact ⟨("CAP " ++ target ++ " LS *").toList ++ [' '], by simp [listLine]⟩
    | false => exact ⟨("CAP " ++ target ++ " LS").toList ++ [' '], by simp [listLine]⟩
  have hlast : ∀ c ∈ (listLine target more tokens).toList.getLast?, isLineBreak c = false := by
    intro c hc
    rw [hline, List.getLast?_append_cons] at hc
    exact hchars c (List.mem_of_getLast? hc)
  have hend := dropEndWhile_of_getLast? hlast (List.forall_mem_nil _)
  rwa [List.append_nil] at hend

/-- A line of a list is read as what it was meant for. -/
theorem parse?_listLine (ht : IsMiddle target.toList) (h : ∀ token ∈ tokens, IsToken token)
    (more : Bool) :
    Message.parse? (listLine target more tokens) = some (listMessage target more tokens) := by
  have hspaced := (listMessage target more tokens).spaced_render
  rw [render_listMessage] at hspaced
  exact parse?_trimmed (wellFormed_listMessage ht more) (beginsWell_listMessage more) hspaced
    (dropEndWhile_listLine h more)

/-! ## A list in parts -/

variable {m : Type} {n : Negotiator m}

/-- A negotiation that has noted some tokens, behind those that it had noted before. -/
def noting (n : Negotiator m) (tokens : List String) : Negotiator m :=
  { n with offers := n.offers ++ offersOf tokens }

theorem noting_noting (a b : List String) : (n.noting a).noting b = n.noting (a ++ b) := by
  rw [noting, noting, noting, offersOf_append, ← List.append_assoc]

/-- A negotiation that is still to learn what the server offers. -/
structure Gathers (n : Negotiator m) : Prop where
  state : n.state = .capRequested
  pending : n.pending = none

variable [SaslMechanism m]

theorem listed_listMessage (h : ∀ token ∈ tokens, IsToken token) (more : Bool) :
    n.listed (listMessage target more tokens) =
      if more then (n.noting tokens, .empty) else (n.noting tokens).requestSasl := by
  unfold noting
  rw [← readOffers_intercalate h]
  cases more with
  | true => rfl
  | false =>
      -- a last part of one `*` has nothing behind it, and so is no first part
      have hthird : (listMessage target false tokens).arg 2 = some (" ".intercalate tokens) := rfl
      have hfourth : (listMessage target false tokens).arg 3 = none := rfl
      unfold listed
      rw [hthird, hfourth]
      split
      rename_i hread
      split at hread
      · rename_i hnone
        cases hnone
      · rename_i hcaps _
        cases hread
        rw [Option.some.inj hcaps]
      · rename_i hnone
        cases hnone

theorem handle_listMessage (hn : Gathers n) (h : ∀ token ∈ tokens, IsToken token) (net : Network)
    (more : Bool) : n.handle net (listMessage target more tokens) = consumes net
      (if more then (n.noting tokens, .empty) else (n.noting tokens).requestSasl) := by
  have hupper : upper (((listMessage target more tokens).arg 1).getD "") = "LS" :=
    show upper "LS" = "LS" by decide
  have hcap : n.handleCap net (listMessage target more tokens) =
      n.listed (listMessage target more tokens) := by
    rw [handleCap, if_neg (by simp [hn.state]), hupper]
    rfl
  show consumes net (n.handleCap net (listMessage target more tokens)) = _
  rw [hcap, listed_listMessage h]

/-- Where a line leaves no step, hearing it is handling it. -/
theorem hear_eq_of_handle {l : Heard} {r : Negotiator m × Outcome}
    (hr : n.handle l.before l.msg = consumes l.before r) (hp : r.1.pending = none) :
    n.hear l = r := by
  rw [hear, hr]
  dsimp only [consumes]
  rw [runStep_of_pending_none hp, Outcome.append_empty]

theorem pending_requestSasl (h : n.pending = none) : n.requestSasl.1.pending = none := by
  unfold requestSasl
  split
  · exact h
  · rfl

theorem hear_part (hn : Gathers n) (h : ∀ token ∈ tokens, IsToken token) {l : Heard}
    (hl : l.msg = listMessage target true tokens) :
    n.hear l = (n.noting tokens, .empty) :=
  hear_eq_of_handle (hl ▸ handle_listMessage hn h l.before true) hn.pending

theorem hear_lastPart (hn : Gathers n) (h : ∀ token ∈ tokens, IsToken token) {l : Heard}
    (hl : l.msg = listMessage target false tokens) :
    n.hear l = (n.noting tokens).requestSasl :=
  hear_eq_of_handle (hl ▸ handle_listMessage hn h l.before false) (pending_requestSasl hn.pending)

/-- **The parts before the last are only noted.** The last one decides, on all that was noted. -/
theorem dialogue_listLines (ht : IsMiddle target.toList) {last : List String} :
    ∀ {parts : List (List String)} {n : Negotiator m} {heard : List Heard}, Gathers n →
    (∀ token ∈ parts.flatten ++ last, IsToken token) →
    heard.map (fun l => some l.msg) = (listLines target parts last).map Message.parse? →
    let decided := (n.noting (parts.flatten ++ last)).requestSasl
    n.dialogue heard = (decided.1, List.replicate parts.length .empty ++ [decided.2])
  | [], n, heard, hn, h, hheard => by
    rw [listLines, List.map_nil, List.nil_append, List.map_singleton] at hheard
    obtain ⟨l, rfl, hl⟩ := List.map_eq_singleton_iff.mp hheard
    have hl : l.msg = listMessage target false last :=
      Option.some.inj (hl.trans (parse?_listLine ht h false))
    have hsingle : n.dialogue [l] = ((n.hear l).1, [(n.hear l).2]) := rfl
    rw [hsingle, hear_lastPart hn h hl]
    rfl
  | part :: parts, n, heard, hn, h, hheard => by
    rw [listLines, List.map_cons, List.cons_append, List.map_cons] at hheard
    obtain ⟨l, heard, rfl, hl, hheard⟩ := List.map_eq_cons_iff.mp hheard
    rw [List.flatten_cons, List.append_assoc, List.forall_mem_append] at h
    have hl : l.msg = listMessage target true part :=
      Option.some.inj (hl.trans (parse?_listLine ht h.1 true))
    have hrest := dialogue_listLines ht (n := n.noting part) ⟨hn.state, hn.pending⟩ h.2 hheard
    rw [noting_noting, ← List.append_assoc, ← List.flatten_cons] at hrest
    have hcons : n.dialogue (l :: heard) = (((n.noting part).dialogue heard).1,
        .empty :: ((n.noting part).dialogue heard).2) := by
      rw [dialogue, hear_part hn h.1 hl]
    rw [hcons, hrest]
    rfl

/-! ## What is decided -/

/-- A negotiation that has just begun asks for what it is offered, and ends without. -/
theorem requestSasl_offersOf (fresh : m) (tokens : List String) :
    let decided := ((new (some fresh)).start.1.noting tokens).requestSasl
    (Offers (SaslMechanism.name fresh) tokens →
      decided.2 = .send "CAP REQ :sasl" ∧ decided.1.state = .capRequested ∧
        decided.1.result = none) ∧
    (¬ Offers (SaslMechanism.name fresh) tokens →
      decided.2 = .send "CAP END" ∧ decided.1.state = .capEnded ∧
        decided.1.result = some .capNotSupported) := by
  intro decided
  have hdecided : decided = if isUsable (offersOf tokens) (SaslMechanism.name fresh) then
      ((new (some fresh)).start.1.noting tokens, .send "CAP REQ :sasl")
      else ((new (some fresh)).start.1.noting tokens).finish .capNotSupported :=
    rfl
  rw [hdecided]
  constructor
  · intro h
    rw [if_pos ((isUsable_offersOf _ tokens).mpr h)]
    exact ⟨rfl, rfl, rfl⟩
  · intro h
    rw [if_neg fun husable => h ((isUsable_offersOf _ tokens).mp husable)]
    exact ⟨rfl, rfl, rfl⟩

/--
**A list in parts means the same as in one line.** However the tokens of a list are divided into
lines, the client says nothing until the last one is in. Then it asks for authentication if the
tokens offer it by the mechanism that is configured, and ends the negotiation if they do not; and
lines of the same tokens that are divided in another way leave it at the same point, with the
same answer.
-/
theorem list_split_immaterial (identity : Identity) (nonce : String)
    (enabled : identity.sasl.enabled = true) {target : String} (ht : IsMiddle target.toList)
    {parts : List (List String)} {last : List String}
    (htokens : ∀ token ∈ parts.flatten ++ last, IsToken token) {heard : List Heard}
    (hheard : heard.map (fun l => some l.msg) =
      (listLines target parts last).map Message.parse?) :
    let start := (Negotiator.new (identity.mechanism? nonce)).start
    let done := start.1.dialogue heard
    let offered := Offers identity.sasl.mechanism.text (parts.flatten ++ last)
    (∃ o, done.2 = List.replicate parts.length .empty ++ [o] ∧
      (offered → o = .send "CAP REQ :sasl" ∧ done.1.state = .capRequested ∧
        done.1.result = none) ∧
      (¬ offered → o = .send "CAP END" ∧ done.1.state = .capEnded ∧
        done.1.result = some .capNotSupported)) ∧
    ∀ (target' : String) (parts' : List (List String)) (last' : List String)
      (heard' : List Heard), IsMiddle target'.toList →
      parts'.flatten ++ last' = parts.flatten ++ last →
      heard'.map (fun l => some l.msg) = (listLines target' parts' last').map Message.parse? →
      (start.1.dialogue heard').1 = done.1 ∧
        (start.1.dialogue heard').2.getLast? = done.2.getLast? := by
  intro start done offered
  obtain ⟨fresh, hfresh, hname⟩ := Identity.exists_mechanism enabled nonce
  have hstart : start = (Negotiator.new (some fresh)).start := by rw [← hfresh]
  have hgathers : Gathers start.1 := by
    rw [hstart]
    exact ⟨rfl, rfl⟩
  -- what is left at the end is a matter of the tokens alone, and so it is with other lines of them
  have hdone := dialogue_listLines ht hgathers htokens hheard
  constructor
  · refine ⟨_, congrArg Prod.snd hdone, ?_⟩
    rw [show done.1 = _ from congrArg Prod.fst hdone]
    have hdecided := requestSasl_offersOf fresh (parts.flatten ++ last)
    rw [show SaslMechanism.name fresh = _ from hname, ← hstart] at hdecided
    exact hdecided
  · intro target' parts' last' heard' ht' hsame hheard'
    have hdone' := dialogue_listLines ht' hgathers (hsame ▸ htokens) hheard'
    rw [hsame] at hdone'
    rw [hdone', show done = _ from hdone]
    exact ⟨rfl, by rw [List.getLast?_concat, List.getLast?_concat]⟩

/-- Of two tokens for authentication the first one counts, though it is not in the last part. -/
theorem list_split_immaterial_first_counts :
    let identity : Identity := {
      id := 1, name := "net", endpoints := [], nickname := "me", username := "me"
      realname := "me", sasl := { enabled := true } }
    let net : Network := .new 1 "net" "me"
    let parts := [["multi-prefix", "sasl=EXTERNAL,plain"], []]
    let last := ["sasl=EXTERNAL"]
    let heard : List Heard := [
      ⟨listMessage "*" true ["multi-prefix", "sasl=EXTERNAL,plain"], net, net⟩,
      ⟨listMessage "*" true [], net, net⟩, ⟨listMessage "*" false last, net, net⟩]
    let start := (Negotiator.new (identity.mechanism? "")).start
    identity.sasl.enabled = true ∧ (∀ token ∈ parts.flatten ++ last, IsToken token) ∧
      heard.map (fun l => some l.msg) = (listLines "*" parts last).map Message.parse? ∧
      (start.1.dialogue heard).2 = [.empty, .empty, .send "CAP REQ :sasl"] := by
  intro identity net parts last heard start
  have htarget : IsMiddle "*".toList := ⟨by decide, by decide, by decide⟩
  have htokens : ∀ token ∈ parts.flatten ++ last, IsToken token := by decide +kernel
  have hheard : heard.map (fun l => some l.msg) =
      (listLines "*" parts last).map Message.parse? := by decide +kernel
  have hoffered : Offers "PLAIN" (parts.flatten ++ last) :=
    (isUsable_offersOf _ _).mp (by decide +kernel)
  obtain ⟨⟨o, hdone, hasks, -⟩, -⟩ :=
    list_split_immaterial identity "" rfl htarget htokens hheard
  refine ⟨rfl, htokens, hheard, ?_⟩
  rw [hdone, (hasks hoffered).1]
  rfl

/-- A token with a tab in it counts as two. -/
theorem tab_divides_token :
    let identity : Identity := {
      id := 1, name := "net", endpoints := [], nickname := "me", username := "me"
      realname := "me", sasl := { enabled := true } }
    let net : Network := .new 1 "net" "me"
    let msg := listMessage "*" false ["cap\tsasl"]
    let start := (Negotiator.new (identity.mechanism? "")).start
    let done := start.1.dialogue [⟨msg, net, net⟩]
    ' ' ∉ "cap\tsasl".toList ∧ ¬ Offers "PLAIN" ["cap\tsasl"] ∧
      Message.parse? "CAP * LS :cap\tsasl" = some msg ∧
      done.2.map (·.lines) = [["CAP REQ :sasl"]] ∧ done.1.result = none := by
  intro identity net msg start done
  refine ⟨by decide, ?_, by decide +kernel, by decide +kernel, by decide +kernel⟩
  rw [← isUsable_offersOf]
  decide +kernel

end Negotiator

end IrcClient
