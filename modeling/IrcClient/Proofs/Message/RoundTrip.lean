import IrcClient.Proofs.Message.Parts
import IrcClient.Proofs.Message.Spacing
import IrcClient.Proofs.Text.Letter

/-!
# Messages and the lines that hold them

Many lines read as one message, and one of them is written. So reading is not the inverse of
writing on all lines, but it is on the lines that are written, and these stand for all messages
that are ever read: what is read from a line is well formed (`wellFormed_of_parse?`), and a
well-formed message is read from every line that has its tokens, however far they are apart and
however the line ends (`parse?_spaced`).

Reading takes the tokens off one by one: the tags, the source, and the command with its
arguments. Each has a lemma for either direction, what it makes of a line of tokens and what it
has made a message from.
-/

namespace IrcClient

/-! ## Messages as tokens -/

/-- The tags, if there are any. -/
def tagTokens (tags : List Tag) : List (List Char) :=
  if tags.isEmpty then [] else ['@' :: (";".intercalate (tags.map Tag.render)).toList]

/-- The source, if there is one. -/
def sourceTokens (source : Option Source) : List (List Char) :=
  (source.map fun s => ':' :: s.render.toList).toList

/-- The arguments, the last one behind a colon. -/
def argTokens : List String → List (List Char)
  | [] => []
  | [last] => [':' :: last.toList]
  | arg :: rest => arg.toList :: argTokens rest

/-- The command and the arguments. -/
def commandTokens (command : String) (args : List String) : List (List Char) :=
  command.toList :: argTokens args

/-- The tokens that a message is written as. -/
def Message.tokens (m : Message) : List (List Char) :=
  tagTokens m.tags ++ (sourceTokens m.source ++ commandTokens m.command m.args)

theorem argTokens_ne_nil : ∀ {args : List String}, args ≠ [] → argTokens args ≠ []
  | [], h => absurd rfl h
  | [_], _ => List.cons_ne_nil _ _
  | _ :: _ :: _, _ => List.cons_ne_nil _ _

theorem spaced_args (command : List Char) : ∀ args : List String,
    Spaced (command :: argTokens args) (command ++ (renderArgs args).toList)
  | [] => by
    rw [renderArgs, String.toList_empty, List.append_nil]
    exact .last command
  | [last] => by
    rw [renderArgs, String.toList_append]
    exact .more command 0 (.last _)
  | arg :: next :: rest => by
    rw [renderArgs, String.toList_append, String.toList_append, List.append_assoc]
    · exact .more command 0 (spaced_args arg.toList (next :: rest))
    · exact List.cons_ne_nil _ _

/-- What is written is one of the lines. -/
theorem Message.spaced_render (m : Message) : Spaced m.tokens m.render.toList := by
  have hcommand := spaced_args m.command.toList m.args
  have hsource : Spaced (sourceTokens m.source ++ commandTokens m.command m.args)
      ((m.source.map fun s => ":" ++ s.render ++ " ").getD "" ++ m.command ++
        renderArgs m.args).toList := by
    cases m.source with
    | none => simpa [sourceTokens, commandTokens] using hcommand
    | some s =>
      simpa [sourceTokens, commandTokens] using Spaced.more (':' :: s.render.toList) 0 hcommand
  unfold tokens tagTokens render
  split
  · simpa [String.append_assoc] using hsource
  · simpa [String.append_assoc] using
      Spaced.more ('@' :: (";".intercalate (m.tags.map Tag.render)).toList) 0 hsource

/-! ## Well-formed messages -/

namespace Message

/-- A message whose parts can stand in a line and be told apart there. -/
structure WellFormed (m : Message) : Prop where
  tags : ∀ t ∈ m.tags, t.WellFormed
  source : ∀ s ∈ m.source, s.WellFormed
  command_ne : m.command ≠ ""
  command_noSpace : ' ' ∉ m.command.toList
  command_upper : upper m.command = m.command
  args : ∀ arg ∈ m.args.dropLast, IsMiddle arg.toList

/-- The command does not begin like something that stands in front of it. -/
structure BeginsWell (m : Message) : Prop where
  noBlank : Begun m.command.toList
  noColon : m.source = none → m.command.toList.head? ≠ some ':'
  noAt : m.source = none → m.tags = [] → m.command.toList.head? ≠ some '@'

end Message

/-! ## Reading what was written -/

variable {line : List Char}

theorem args_spaced : ∀ {args : List String} {line : List Char}, args ≠ [] →
    (∀ arg ∈ args.dropLast, IsMiddle arg.toList) → Spaced (argTokens args) line →
    argsFrom [] line = args.map String.toList
  | [], _, hne, _, _ => absurd rfl hne
  | [last], line, _, _, h => by
    rw [h.eq_of_singleton]
    exact argsFrom_colon last.toList
  | arg :: next :: rest, line, _, hmiddle, h => by
    obtain ⟨extra, line', rfl, h'⟩ := h.exists_rest (argTokens_ne_nil (List.cons_ne_nil next rest))
    rw [List.dropLast_cons_cons, List.forall_mem_cons] at hmiddle
    rw [argsFrom_middle hmiddle.1, argsFrom_spaces,
      args_spaced (List.cons_ne_nil next rest) hmiddle.2 h']
    rfl

theorem parseCommand_of_cut {m : Message} (hm : m.WellFormed) (rest : List Char)
    (hcut : (cut? ' ' line).getD (line, []) = (m.command.toList, rest))
    (hargs : argsFrom [] rest = m.args.map String.toList) :
    Message.parseCommand m.tags m.source line = some m := by
  have hne : m.command.toList.isEmpty = false := by
    rw [List.isEmpty_eq_false_iff, ne_eq, String.toList_eq_nil_iff]
    exact hm.command_ne
  unfold Message.parseCommand
  rw [hcut]
  dsimp only
  rw [hne, if_neg (by decide), String.ofList_toList, hm.command_upper, hargs, List.map_map]
  simp [Function.comp_def]

theorem parseCommand_spaced {m : Message} (hm : m.WellFormed)
    (h : Spaced (commandTokens m.command m.args) line) :
    Message.parseCommand m.tags m.source line = some m := by
  by_cases hargs : m.args = []
  · have hline : line = m.command.toList := by
      rw [hargs] at h
      exact h.eq_of_singleton
    have hcut : (cut? ' ' line).getD (line, []) = (m.command.toList, []) := by
      rw [hline, cut?_eq_none_iff.mpr hm.command_noSpace]
      rfl
    exact parseCommand_of_cut hm [] hcut (by rw [hargs]; rfl)
  · obtain ⟨extra, rest, rfl, h'⟩ := h.exists_rest (argTokens_ne_nil hargs)
    refine parseCommand_of_cut hm (List.replicate extra ' ' ++ rest) ?_ ?_
    · rw [cut?_eq_some_iff.mpr ⟨rfl, hm.command_noSpace⟩]
      rfl
    · rw [argsFrom_spaces, args_spaced hargs hm.args h']

theorem parseSource_of_noColon (tags : List Tag) (h : line.head? ≠ some ':') :
    Message.parseSource tags line = Message.parseCommand tags none line := by
  unfold Message.parseSource
  split
  · exact absurd rfl h
  · rfl

/-- A line of a command and arguments begins as the command does. -/
theorem Message.WellFormed.head?_eq {m : Message} (hm : m.WellFormed)
    (h : Spaced (commandTokens m.command m.args) line) :
    line.head? = m.command.toList.head? :=
  h.head?_eq (by simpa using hm.command_ne)

theorem parseSource_spaced {m : Message} (hm : m.WellFormed) (hb : m.BeginsWell)
    (h : Spaced (sourceTokens m.source ++ commandTokens m.command m.args) line) :
    Message.parseSource m.tags line = some m := by
  cases hs : m.source with
  | none =>
    rw [hs] at h
    rw [parseSource_of_noColon, ← hs]
    · exact parseCommand_spaced hm h
    · rw [hm.head?_eq h]
      exact hb.noColon hs
  | some s =>
    rw [hs] at h
    obtain ⟨extra, rest, rfl, h'⟩ := h.exists_rest (List.cons_ne_nil _ _)
    have hwf : s.WellFormed := hm.source s hs
    have hbegun : Begun rest := fun c hc => hb.noBlank c (hm.head?_eq h' ▸ hc)
    rw [List.cons_append, Message.parseSource, token?_spaced hwf.noSpace extra hbegun,
      Option.bind_some]
    dsimp only
    rw [Source.parse_render hwf, ← hs]
    exact parseCommand_spaced hm h'

/-- The tags as they stand between the `@` and the space. -/
def tagText (tags : List Tag) : List Char :=
  [';'].intercalate (tags.map (·.render.toList))

theorem tagTokens_of_ne_nil {tags : List Tag} (h : tags ≠ []) :
    tagTokens tags = ['@' :: tagText tags] := by
  rw [tagTokens, if_neg (by simpa using h), String.toList_intercalate, List.map_map]
  rfl

theorem parse_tagText {tags : List Tag} (hne : tags ≠ []) (h : ∀ t ∈ tags, t.WellFormed) :
    (pieces ';' (tagText tags)).map Tag.parse = tags := by
  have hp : pieces ';' (tagText tags) = tags.map (·.render.toList) :=
    pieces_intercalate (by simpa using hne)
      (List.forall_mem_map.mpr fun t ht => (h t ht).notMem_render.2)
  calc (pieces ';' (tagText tags)).map Tag.parse
    _ = tags.map fun t => Tag.parse t.render.toList := by rw [hp, List.map_map]; rfl
    _ = tags.map id := List.map_congr_left fun t ht => Tag.parse_render (h t ht)
    _ = tags := List.map_id tags

theorem space_notMem_tagText {tags : List Tag} (h : ∀ t ∈ tags, t.WellFormed) :
    ' ' ∉ tagText tags := by
  intro hx
  obtain hx | ⟨_, hp, hx⟩ := mem_intercalate hx
  · exact absurd hx (by decide)
  · obtain ⟨t, ht, rfl⟩ := List.mem_map.mp hp
    exact (h t ht).notMem_render.1 hx

theorem parse?_of_noAt {text : String}
    (htext : dropBlanks (dropEndWhile isLineBreak text.toList) = line) (hne : line ≠ [])
    (hat : line.head? ≠ some '@') : Message.parse? text = Message.parseSource [] line := by
  unfold Message.parse?
  rw [htext]
  split
  · exact absurd rfl hne
  · exact absurd rfl hat
  · rfl

theorem parse?_of_at {text : String} {s : List Char}
    (htext : dropBlanks (dropEndWhile isLineBreak text.toList) = '@' :: s) :
    Message.parse? text = (token? s).bind fun (tags, rest) =>
      Message.parseSource ((pieces ';' tags).map Tag.parse) rest := by
  unfold Message.parse?
  rw [htext]
  rfl

/-- Behind its tags a line goes on with a colon, or as the command does. -/
theorem Message.WellFormed.head?_source {m : Message} (hm : m.WellFormed)
    (h : Spaced (sourceTokens m.source ++ commandTokens m.command m.args) line) :
    line.head? = some ':' ∨ m.source = none ∧ line.head? = m.command.toList.head? := by
  cases hs : m.source with
  | none =>
    rw [hs] at h
    exact .inr ⟨rfl, hm.head?_eq h⟩
  | some s =>
    rw [hs] at h
    exact .inl (h.head?_eq (List.cons_ne_nil _ _))

theorem Message.WellFormed.begun_source {m : Message} (hm : m.WellFormed) (hb : m.BeginsWell)
    (h : Spaced (sourceTokens m.source ++ commandTokens m.command m.args) line) : Begun line := by
  intro c hc
  obtain hline | ⟨-, hline⟩ := hm.head?_source h
  · rw [hline] at hc
    cases hc
    decide
  · exact hb.noBlank c (hline ▸ hc)

/-- A well-formed message is read from every text that has its tokens, once its end is off. -/
theorem parse?_trimmed {m : Message} (hm : m.WellFormed) (hb : m.BeginsWell)
    (h : Spaced m.tokens line) {text : String}
    (htext : dropEndWhile isLineBreak text.toList = line) : Message.parse? text = some m := by
  by_cases ht : m.tags = []
  · have h' : Spaced (sourceTokens m.source ++ commandTokens m.command m.args) line := by
      rwa [Message.tokens, ht] at h
    have hfront : dropBlanks (dropEndWhile isLineBreak text.toList) = line := by
      rw [htext, dropBlanks_eq_self (hm.begun_source hb h')]
    have hne : line ≠ [] := by
      rintro rfl
      obtain hnil | ⟨-, hnil⟩ := hm.head?_source h'
      · cases hnil
      · exact hm.command_ne (by simpa using hnil.symm)
    -- without tags the line begins with its source or its command
    have hat : line.head? ≠ some '@' := by
      obtain hcolon | ⟨hs, hcommand⟩ := hm.head?_source h'
      · rw [hcolon]
        decide
      · rw [hcommand]
        exact hb.noAt hs ht
    rw [parse?_of_noAt hfront hne hat, ← ht]
    exact parseSource_spaced hm hb h'
  · rw [Message.tokens, tagTokens_of_ne_nil ht] at h
    obtain ⟨extra, rest, rfl, h'⟩ := h.exists_rest (by simp [commandTokens])
    have hat : Begun (('@' :: tagText m.tags) ++ ' ' :: (List.replicate extra ' ' ++ rest)) := by
      intro c hc
      cases hc
      decide
    rw [parse?_of_at (by rw [htext, dropBlanks_eq_self hat, List.cons_append]),
      token?_spaced (space_notMem_tagText hm.tags) extra (hm.begun_source hb h'),
      Option.bind_some]
    dsimp only
    rw [parse_tagText ht hm.tags]
    exact parseSource_spaced hm hb h'

/-- A line without breaks can have any number of them behind it. -/
theorem parse?_spaced {m : Message} (hm : m.WellFormed) (hb : m.BeginsWell)
    (h : Spaced m.tokens line) (hline : ∀ c ∈ line, isLineBreak c = false) {ending : List Char}
    (hending : ∀ c ∈ ending, isLineBreak c = true) :
    Message.parse? (String.ofList (line ++ ending)) = some m := by
  refine parse?_trimmed hm hb h ?_
  rw [String.toList_ofList, dropEndWhile_lineBreaks hline hending]

/-! ## What is read -/

/-- What a message has from the text of its command and its arguments. -/
structure HasCommand (s : List Char) (m : Message) : Prop where
  ne : m.command ≠ ""
  noSpace : ' ' ∉ m.command.toList
  upper : upper m.command = m.command
  head : m.command.toList.head? = s.head?.map Char.toUpper
  args : ∀ arg ∈ m.args.dropLast, IsMiddle arg.toList
  mem : ∀ token ∈ commandTokens m.command m.args, ∀ x ∈ token,
    x = ':' ∨ ∃ y ∈ s, x = y ∨ x = y.toUpper

theorem mem_argTokens {x : Char} : ∀ {args : List String} {token : List Char},
    token ∈ argTokens args → x ∈ token → x = ':' ∨ ∃ arg ∈ args, x ∈ arg.toList
  | [], _, h, _ => absurd h List.not_mem_nil
  | [last], token, h, hx => by
    rw [List.mem_singleton.mp h, List.mem_cons] at hx
    exact hx.imp_right fun hx => ⟨last, List.mem_cons_self, hx⟩
  | arg :: next :: rest, token, h, hx => by
    obtain rfl | h := List.mem_cons.mp h
    · exact .inr ⟨arg, List.mem_cons_self, hx⟩
    · exact (mem_argTokens h hx).imp_right fun ⟨a, ha, hx⟩ => ⟨a, List.mem_cons_of_mem arg ha, hx⟩

theorem mem_commandTokens {command rest token : List Char} {x : Char}
    (h : token ∈ commandTokens (upper (String.ofList command))
      ((argsFrom [] rest).map String.ofList)) (hx : x ∈ token) :
    x = ':' ∨ (∃ y ∈ command, x = y.toUpper) ∨ x ∈ rest := by
  obtain rfl | h := List.mem_cons.mp h
  · rw [toList_upper, String.toList_ofList] at hx
    obtain ⟨y, hy, rfl⟩ := List.mem_map.mp hx
    exact .inr (.inl ⟨y, hy, rfl⟩)
  · refine (mem_argTokens h hx).imp_right ?_
    rintro ⟨_, harg, hx⟩
    obtain ⟨a, ha, rfl⟩ := List.mem_map.mp harg
    rw [String.toList_ofList] at hx
    exact .inr ((mem_of_mem_argsFrom ha hx).resolve_left List.not_mem_nil)

theorem hasCommand_of_parseCommand {tags : List Tag} {source : Option Source} {s : List Char}
    {m : Message} (h : Message.parseCommand tags source s = some m) :
    m.tags = tags ∧ m.source = source ∧ HasCommand s m := by
  obtain ⟨⟨command, rest⟩, hcut⟩ : ∃ p, (cut? ' ' s).getD (s, []) = p := ⟨_, rfl⟩
  obtain ⟨hspace, hs⟩ := of_cut?_getD hcut
  unfold Message.parseCommand at h
  rw [hcut] at h
  dsimp only at h
  split at h
  · cases h
  · rename_i hne
    have hne : command ≠ [] := by simpa using hne
    have hupper : (upper (String.ofList command)).toList = command.map Char.toUpper := by
      rw [toList_upper, String.toList_ofList]
    cases h
    refine ⟨rfl, rfl, ?ne, ?noSpace, upper_upper _, ?head, ?args, ?mem⟩
    case ne =>
      rw [ne_eq, ← String.toList_eq_nil_iff, hupper]
      simpa using hne
    case noSpace =>
      rw [hupper, List.mem_map]
      rintro ⟨c, hc, he⟩
      -- no letter becomes a space when it is written large
      rw [toUpper_eq_iff (by decide)] at he
      exact hspace (he ▸ hc)
    case head =>
      rw [hupper, List.head?_map]
      obtain ⟨rfl, -⟩ | rfl := hs
      · rfl
      · rw [List.head?_append, List.head?_eq_some_head hne]
        rfl
    case args =>
      rw [← List.map_dropLast, List.forall_mem_map]
      intro a ha
      rw [String.toList_ofList]
      exact isMiddle_of_argsFrom List.not_mem_nil (by simp) ha
    case mem =>
      intro token htoken x hx
      -- each character of a token stands in the text, or is a letter of it written large
      refine (mem_commandTokens htoken hx).imp_right ?_
      obtain ⟨rfl, rfl⟩ | rfl := hs
      · rintro (⟨y, hy, hxy⟩ | hx)
        · exact ⟨y, hy, .inr hxy⟩
        · cases hx
      · rintro (⟨y, hy, hxy⟩ | hx)
        · exact ⟨y, List.mem_append_left _ hy, .inr hxy⟩
        · exact ⟨x, List.mem_append_right _ (List.mem_cons_of_mem ' ' hx), .inl rfl⟩

/-- What a message has from the text behind its tags. -/
structure HasSource (s : List Char) (m : Message) : Prop where
  source : ∀ source ∈ m.source, source.WellFormed
  mem : ∀ token ∈ sourceTokens m.source, ∀ x ∈ token, x ∈ s
  command : ∃ rest, HasCommand rest m ∧ Begun rest ∧ (∀ x ∈ rest, x ∈ s) ∧
    (m.source = none → rest = s ∧ s.head? ≠ some ':')

theorem sourceTokens_parse (text : List Char) :
    sourceTokens (some (Source.parse text)) = [':' :: text] :=
  congrArg (fun s => [':' :: s]) (Source.toList_render_parse text)

theorem hasSource_of_parseSource {tags : List Tag} {s : List Char} {m : Message} (hs : Begun s)
    (h : Message.parseSource tags s = some m) : m.tags = tags ∧ HasSource s m := by
  unfold Message.parseSource at h
  split at h
  · rename_i s
    -- a colon begins the source, which ends at the first space
    obtain ⟨⟨text, rest⟩, htoken, hread⟩ := Option.bind_eq_some_iff.mp h
    obtain ⟨hspace, hbegun, blanks, rfl, hrest⟩ := token?_eq_some htoken
    obtain ⟨rfl, hsource, hcommand⟩ := hasCommand_of_parseCommand hread
    refine ⟨rfl, ?source, ?mem, rest, hcommand, hbegun, fun x hx => ?rest, fun hnone => ?none⟩
    case source =>
      rw [hsource]
      rintro _ ⟨⟩
      exact Source.wellFormed_parse hspace
    case mem =>
      rw [hsource, sourceTokens_parse]
      intro token htoken x hx
      rw [List.mem_singleton.mp htoken] at hx
      exact List.mem_append_left _ hx
    case rest =>
      exact List.mem_cons_of_mem _ (List.mem_append_right _ (List.mem_cons_of_mem _ (hrest x hx)))
    case none =>
      rw [hsource] at hnone
      cases hnone
  · rename_i hcolon
    obtain ⟨rfl, hsource, hcommand⟩ := hasCommand_of_parseCommand h
    have hhead : s.head? ≠ some ':' := fun hc => by
      obtain ⟨rest, rfl⟩ := List.head?_eq_some_iff.mp hc
      exact hcolon rest rfl
    refine ⟨rfl, ?source, ?mem, s, hcommand, hs, fun x hx => hx, fun _ => ⟨rfl, hhead⟩⟩
    case source =>
      rw [hsource]
      exact nofun
    case mem =>
      rw [hsource]
      exact nofun

theorem tagText_parse (text : List Char) :
    tagText ((pieces ';' text).map Tag.parse) = text := by
  have hid : ((pieces ';' text).map Tag.parse).map (·.render.toList) = pieces ';' text := by
    rw [List.map_map]
    exact (List.map_congr_left fun s _ => Tag.toList_render_parse s).trans (List.map_id _)
  rw [tagText, hid, intercalate_pieces]

/-- What a message has from the text of a line. -/
structure HasTags (line : List Char) (m : Message) : Prop where
  tags : ∀ t ∈ m.tags, t.WellFormed
  mem : ∀ token ∈ tagTokens m.tags, ∀ x ∈ token, x ∈ line
  source : ∃ rest, HasSource rest m ∧ (∀ x ∈ rest, x ∈ line) ∧
    (m.tags = [] → rest.head? ≠ some '@')

theorem hasTags_of_parse? {text : String} {m : Message} (h : Message.parse? text = some m) :
    HasTags text.toList m := by
  let line := dropBlanks (dropEndWhile isLineBreak text.toList)
  -- only blanks and line breaks are lost at the ends
  have hline : ∀ x ∈ line, x ∈ text.toList := by
    intro x hx
    have hend := (List.dropWhile_sublist _).mem hx
    rw [dropEndWhile, List.mem_reverse] at hend
    exact List.mem_reverse.mp ((List.dropWhile_sublist _).mem hend)
  have hbegun : Begun line := begun_dropBlanks _
  by_cases hat : line.head? = some '@'
  · obtain ⟨s, hs⟩ := List.head?_eq_some_iff.mp hat
    rw [parse?_of_at hs] at h
    obtain ⟨⟨tags, rest⟩, htoken, hread⟩ := Option.bind_eq_some_iff.mp h
    obtain ⟨hspace, hrest, blanks, rfl, hmem⟩ := token?_eq_some htoken
    obtain ⟨htags, hsource⟩ := hasSource_of_parseSource hrest hread
    have hne : m.tags ≠ [] := by simpa [htags] using pieces_ne_nil ';' tags
    refine ⟨?tags, ?mem, rest, hsource, fun x hx => hline x ?rest, fun hnil => absurd hnil hne⟩
    case tags =>
      rw [htags, List.forall_mem_map]
      intro s hs
      exact Tag.wellFormed_parse (fun hx => hspace (mem_of_mem_pieces hs hx))
        (notMem_of_mem_pieces hs)
    case mem =>
      rw [tagTokens_of_ne_nil hne, htags, tagText_parse]
      intro token htoken x hx
      rw [List.mem_singleton.mp htoken] at hx
      apply hline
      rw [hs, ← List.cons_append]
      exact List.mem_append_left _ hx
    case rest =>
      rw [hs]
      exact List.mem_cons_of_mem _ (List.mem_append_right _ (List.mem_cons_of_mem _ (hmem x hx)))
  · by_cases hnil : line = []
    · -- an empty line is no message
      have hnil : dropBlanks (dropEndWhile isLineBreak text.toList) = [] := hnil
      unfold Message.parse? at h
      rw [hnil] at h
      cases h
    · rw [parse?_of_noAt rfl hnil hat] at h
      obtain ⟨htags, hsource⟩ := hasSource_of_parseSource hbegun h
      refine ⟨?tags, ?mem, line, hsource, hline, fun _ => hat⟩
      case tags =>
        rw [htags]
        exact List.forall_mem_nil _
      case mem =>
        rw [htags]
        exact List.forall_mem_nil _

/-! ## Reading and writing -/

variable {text : String} {m : Message}

/-- What is read is well formed. -/
theorem wellFormed_of_parse? (h : Message.parse? text = some m) : m.WellFormed := by
  obtain ⟨htags, -, rest, ⟨hsource, -, rest', hcommand, -⟩, -⟩ := hasTags_of_parse? h
  exact ⟨htags, hsource, hcommand.ne, hcommand.noSpace, hcommand.upper, hcommand.args⟩

/-- The command does not begin like what was read before it. -/
theorem beginsWell_of_parse? (h : Message.parse? text = some m) : m.BeginsWell := by
  obtain ⟨-, -, rest, ⟨-, -, rest', hcommand, hbegun, -, hsource⟩, -, hat⟩ := hasTags_of_parse? h
  -- what the command begins with is no letter exactly where it was none in the line
  have hhead : ∀ {x}, x.isAlpha = false → m.command.toList.head? = some x →
      rest'.head? = some x := fun hx hc => by
    rw [hcommand.head, Option.map_eq_some_iff] at hc
    obtain ⟨c, hc, he⟩ := hc
    rwa [← (toUpper_eq_iff hx c).mp he]
  refine ⟨fun x hx => ?_, fun hs hx => ?_, fun hs ht hx => ?_⟩
  · rw [hcommand.head, Option.map_eq_some_iff] at hx
    obtain ⟨c, hc, rfl⟩ := hx
    rw [toUpper_of_letterless letterless_isBlank]
    exact hbegun c hc
  · obtain ⟨rfl, hcolon⟩ := hsource hs
    exact hcolon (hhead (by decide) hx)
  · obtain ⟨rfl, -⟩ := hsource hs
    exact hat ht (hhead (by decide) hx)

theorem hasLineBreak_eq_false_iff {s : String} :
    hasLineBreak s = false ↔ ∀ c ∈ s.toList, isLineBreak c = false := by
  simp [hasLineBreak]

/-- No line break gets into a message from elsewhere. -/
theorem noBreak_of_parse? (h : Message.parse? text = some m) (hb : hasLineBreak text = false) :
    hasLineBreak m.render = false := by
  obtain ⟨-, hmemTags, rest, ⟨-, hmemSource, rest', hcommand, -, hrest', -⟩, hrest, -⟩ :=
    hasTags_of_parse? h
  have hclean : ∀ x ∈ text.toList, isLineBreak x = false := hasLineBreak_eq_false_iff.mp hb
  rw [hasLineBreak_eq_false_iff, m.spaced_render.noBreak_iff]
  intro token htoken x hx
  rw [Message.tokens, List.mem_append, List.mem_append] at htoken
  obtain htoken | htoken | htoken := htoken
  · exact hclean x (hmemTags token htoken x hx)
  · exact hclean x (hrest x (hmemSource token htoken x hx))
  · obtain rfl | ⟨y, hy, rfl | rfl⟩ := hcommand.mem token htoken x hx
    · decide
    · exact hclean x (hrest x (hrest' x hy))
    · rw [toUpper_of_letterless letterless_isLineBreak]
      exact hclean y (hrest y (hrest' y hy))

/--
**Reading inverts writing on what is written.** What is read from a line without breaks is well
formed, and is read again from what it is written as. A well-formed message is read from what it
is written as, and from every other line of its tokens, with any breaks at the end. And every
source is written as what it was read from.
-/
theorem parse_inverts_render :
    (∀ line m, hasLineBreak line = false → Message.parse? line = some m →
      m.WellFormed ∧ m.BeginsWell ∧ Message.parse? m.render = some m) ∧
    (∀ m : Message, m.WellFormed → m.BeginsWell → hasLineBreak m.render = false →
      Message.parse? m.render = some m ∧
      ∀ line ending, Spaced m.tokens line → (∀ c ∈ ending, isLineBreak c = true) →
        Message.parse? (String.ofList (line ++ ending)) = some m) ∧
    ∀ s : String, (Source.parse s.toList).render = s := by
  have hread : ∀ m : Message, m.WellFormed → m.BeginsWell → hasLineBreak m.render = false →
      ∀ line ending, Spaced m.tokens line → (∀ c ∈ ending, isLineBreak c = true) →
        Message.parse? (String.ofList (line ++ ending)) = some m := by
    intro m hm hb hclean line ending h hending
    rw [hasLineBreak_eq_false_iff, m.spaced_render.noBreak_iff, ← h.noBreak_iff] at hclean
    exact parse?_spaced hm hb h hclean hending
  have hrender : ∀ m : Message, m.WellFormed → m.BeginsWell → hasLineBreak m.render = false →
      Message.parse? m.render = some m := by
    intro m hm hb hclean
    have := hread m hm hb hclean m.render.toList [] m.spaced_render nofun
    rwa [List.append_nil, String.ofList_toList] at this
  refine ⟨fun line m hline h => ?_, fun m hm hb hclean => ?_, fun s => ?_⟩
  · have hm := wellFormed_of_parse? h
    have hb := beginsWell_of_parse? h
    exact ⟨hm, hb, hrender m hm hb (noBreak_of_parse? h hline)⟩
  · exact ⟨hrender m hm hb hclean, hread m hm hb hclean⟩
  · rw [← String.toList_inj, Source.toList_render_parse]

/-- Neither spaces nor small letters are kept, but for the last argument. -/
example : (Message.parse? "@a=1;b  :n!u@h   ping x  : y \r\n").map Message.render =
    some "@a=1;b :n!u@h PING x : y " := by
  decide

end IrcClient
