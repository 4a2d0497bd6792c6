import IrcClient.Json5.Token

/-!
# JSON5 documents

A document is one value. It is read token by token: what has been read of the containers
that are still open is kept on a stack, and each token says how to go on. So reading is a
fold over the tokens.
-/

namespace IrcClient.Json5

/-- A value of a document. Texts and numerals are kept as they are written. -/
inductive Value where
  | null
  | bool (b : Bool)
  | number (n : Numeral)
  | text (t : Text)
  | list (items : List Value)
  | record (fields : List (Text × Value))

instance : Inhabited Value := ⟨.null⟩

/-- A container that is still open, its contents in reverse. A record waits for a value. -/
inductive Frame where
  | list (items : List Value)
  | record (fields : List (Text × Value)) (key : Text)

/-- What a reader waits for. -/
inductive Reader where
  | value (outer : List Frame)
  | item (items : List Value) (outer : List Frame)
  | key (fields : List (Text × Value)) (outer : List Frame)
  | colon (fields : List (Text × Value)) (key : Text) (outer : List Frame)
  | itemEnd (items : List Value) (outer : List Frame)
  | fieldEnd (fields : List (Text × Value)) (outer : List Frame)
  | done (v : Value)

namespace Reader

/-- A value is complete, and belongs to the innermost open container. -/
def give (v : Value) : List Frame → Reader
  | [] => done v
  | .list items :: outer => itemEnd (v :: items) outer
  | .record fields k :: outer => fieldEnd ((k, v) :: fields) outer

/-- The value of a word, if it has one. -/
def constant? : String → Option Value
  | "null" => some .null
  | "true" => some (.bool true)
  | "false" => some (.bool false)
  | "Infinity" => some (.number ⟨.none, .infinity⟩)
  | "NaN" => some (.number ⟨.none, .nan⟩)
  | _ => none

/-- A value begins. -/
def begin (outer : List Frame) : Token → Option Reader
  | .mark '[' => some (item [] outer)
  | .mark '\x7b' => some (key [] outer)
  | .mark _ => none
  | .text t => some (give (.text t) outer)
  | .number n => some (give (.number n) outer)
  -- a word that is written with escapes is a key, but never a constant
  | .word true (.ok s) => (constant? s).map (give · outer)
  | .word _ _ => none

/-- Reads a token. A comma may stand after the last item or field, but not before the first. -/
def step : Reader → Token → Option Reader
  | value outer, t => begin outer t
  | item items outer, .mark ']' => some (give (.list items.reverse) outer)
  | item items outer, t => begin (.list items :: outer) t
  | key fields outer, .mark '\x7d' => some (give (.record fields.reverse) outer)
  | key fields outer, .text k => some (colon fields k outer)
  | key fields outer, .word _ k => some (colon fields k outer)
  | colon fields k outer, .mark ':' => some (value (.record fields k :: outer))
  | itemEnd items outer, .mark ',' => some (item items outer)
  | itemEnd items outer, .mark ']' => some (give (.list items.reverse) outer)
  | fieldEnd fields outer, .mark ',' => some (key fields outer)
  | fieldEnd fields outer, .mark '\x7d' => some (give (.record fields.reverse) outer)
  | _, _ => none

/-- The value of a reader that has read a whole document. -/
def result? : Reader → Option Value
  | done v => some v
  | _ => none

end Reader

/-- The value of a document, if it is well written. -/
def Value.parse? (s : String) : Option Value := do
  let ts ← tokens? s
  let r ← ts.foldlM Reader.step (.value [])
  r.result?

end IrcClient.Json5
