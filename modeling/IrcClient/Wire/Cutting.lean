import IrcClient.Wire.Framing

/-!
# Cutting lines off a buffer

The task of a link puts what arrives into a buffer, and has lines cut off its front. It leaves the
cutting to a `Cutter`, which it calls over and over. A call yields a chunk, finds that there is
none yet, or refuses one that is too long; a refusal is not passed on, the task just calls again
(`Retried`). It calls until there is no chunk any more, and only then waits for more bytes
(`Drained`, `Cutter.Reads`).

Of the cutter no more is known than that it refuses a chunk once, and then passes over it up to
the next line feed (`Cutter.Lawful`). It may keep whatever state it likes to do so. A `Framer`
comes to the same without a buffer.
-/

namespace IrcClient

variable {σ : Type}

/-- What a call of a cutter comes to. -/
inductive CutResult where
  | chunk (bytes : Bytes)
  | unfinished
  | tooLong

/-- The result of a call, with the state and the buffer that it leaves. -/
structure Cut (σ : Type) where
  result : CutResult
  state : σ
  buffer : Bytes

/-- What cuts chunks off a buffer: `cutLast` is called when no more bytes can arrive. -/
structure Cutter (σ : Type) where
  start : σ
  cut : σ → Bytes → Cut σ
  cutLast : σ → Bytes → Cut σ

/-! ## What the task does with a cutter -/

/-- Calls as long as the calls are refused: the chunk that comes of it, if there is one. -/
inductive Retried (call : σ → Bytes → Cut σ) :
    σ → Bytes → Option Bytes → σ → Bytes → Prop where
  | chunk {s s' : σ} {buffer buffer' bytes : Bytes}
      (h : call s buffer = ⟨.chunk bytes, s', buffer'⟩) :
      Retried call s buffer (some bytes) s' buffer'
  | unfinished {s s' : σ} {buffer buffer' : Bytes}
      (h : call s buffer = ⟨.unfinished, s', buffer'⟩) :
      Retried call s buffer none s' buffer'
  | tooLong {s t s' : σ} {buffer between buffer' : Bytes} {chunk? : Option Bytes}
      (h : call s buffer = ⟨.tooLong, t, between⟩)
      (again : Retried call t between chunk? s' buffer') :
      Retried call s buffer chunk? s' buffer'

/-- Takes chunks as long as there are any. -/
inductive Drained (call : σ → Bytes → Cut σ) :
    σ → Bytes → List Bytes → σ → Bytes → Prop where
  | done {s s' : σ} {buffer buffer' : Bytes} (h : Retried call s buffer none s' buffer') :
      Drained call s buffer [] s' buffer'
  | more {s t s' : σ} {buffer between buffer' bytes : Bytes} {chunks : List Bytes}
      (h : Retried call s buffer (some bytes) t between)
      (rest : Drained call t between chunks s' buffer') :
      Drained call s buffer (bytes :: chunks) s' buffer'

namespace Cutter

/-- Takes the chunks of a stream that arrives in pieces and then ends. -/
inductive Reads (c : Cutter σ) : σ → Bytes → List Bytes → List Bytes → Prop where
  | ended {s s' : σ} {buffer buffer' : Bytes} {chunks : List Bytes}
      (h : Drained c.cutLast s buffer chunks s' buffer') : Reads c s buffer [] chunks
  | arrived {s t : σ} {buffer bytes between : Bytes} {reads chunks more : List Bytes}
      (h : Drained c.cut s (buffer ++ bytes) chunks t between)
      (rest : Reads c t between reads more) : Reads c s buffer (bytes :: reads) (chunks ++ more)

/-- The lines that the task delivers of a stream that arrives in pieces. -/
def Delivers (c : Cutter σ) (reads : List Bytes) (lines : List String) : Prop :=
  ∃ chunks, c.Reads c.start [] reads chunks ∧ lines = chunks.filterMap lineText?

/-! ## What is known of a cutter -/

/--
How a cutter behaves. `fits` tells which states go with which buffers, and whether the buffer
begins within a chunk that was refused.
-/
structure Lawful (c : Cutter σ) (fits : σ → Bool → Bytes → Prop) : Prop where
  start : fits c.start false []
  arrived {s : σ} {skipping : Bool} {buffer : Bytes} (bytes : Bytes) :
    fits s skipping buffer → fits s skipping (buffer ++ bytes)
  /-- A chunk is cut off at its line feed. -/
  chunk {s : σ} {line rest : Bytes} : fits s false (line ++ lineFeed :: rest) →
    lineFeed ∉ line → line.length ≤ maxLineLength →
    ∃ s', c.cut s (line ++ lineFeed :: rest) = ⟨.chunk line, s', rest⟩ ∧ fits s' false rest
  unfinished {s : σ} {buffer : Bytes} : fits s false buffer →
    lineFeed ∉ buffer → buffer.length ≤ maxLineLength →
    ∃ s', c.cut s buffer = ⟨.unfinished, s', buffer⟩ ∧ fits s' false buffer
  /-- A chunk is refused as soon as it is known to be too long, whether it is complete or not. -/
  tooLong {s : σ} {buffer : Bytes} : fits s false buffer → maxLineLength < buffer.length →
    lineFeed ∉ buffer.take (maxLineLength + 1) →
    ∃ s', c.cut s buffer = ⟨.tooLong, s', buffer⟩ ∧ fits s' true buffer
  /-- What was refused is passed over up to its line feed, and the call goes on behind it. -/
  passed {s : σ} {line rest : Bytes} : fits s true (line ++ lineFeed :: rest) →
    lineFeed ∉ line →
    ∃ s', c.cut s (line ++ lineFeed :: rest) = c.cut s' rest ∧ fits s' false rest
  passing {s : σ} {buffer : Bytes} : fits s true buffer → lineFeed ∉ buffer →
    ∃ s', c.cut s buffer = ⟨.unfinished, s', []⟩ ∧ fits s' true []
  /-- At the end of the stream the same is done as before, as long as it yields something. -/
  last {s : σ} {skipping : Bool} {buffer : Bytes} : fits s skipping buffer →
    (c.cut s buffer).result ≠ .unfinished → c.cutLast s buffer = c.cut s buffer
  /-- Then what is left of the buffer is a chunk, if there is anything left. -/
  remains {s s' : σ} {skipping : Bool} {buffer rest : Bytes} : fits s skipping buffer →
    c.cut s buffer = ⟨.unfinished, s', rest⟩ →
    ∃ s'' skipping', fits s'' skipping' [] ∧
      c.cutLast s buffer = ⟨if rest = [] then .unfinished else .chunk rest, s'', []⟩

end Cutter

end IrcClient
