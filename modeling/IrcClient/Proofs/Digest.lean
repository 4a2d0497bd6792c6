import IrcClient.Digest

/-!
# Digests of a fixed length

All that an exchange of proofs needs to know of a digest is that its results are of one length
(`Digest.Sized`): a key that is hidden behind a signature of its own length can be had back
by whoever can give the signature (`xorBytes_cancel`). SHA-256 and SHA-512 are such digests.
-/

namespace IrcClient

/-- All results of a digest have its length. -/
structure Digest.Sized (digest : Digest) : Prop where
  hash : ∀ data, (digest.hash data).length = digest.length
  hmac : ∀ key data, (digest.hmac key data).length = digest.length
  saltedPassword : ∀ password salt iterations,
    (digest.saltedPassword password salt iterations).length = digest.length

/-- The bytes of a state are those of its eight words. -/
theorem Sha2.State.length_bytes {w : Type} [Word w] (s : State w) :
    s.bytes.length = 8 * Word.size w := by
  have hword : ∀ size n, (bytesOf size n).length = size := fun size n => by
    rw [bytesOf, List.length_map, List.length_range]
  simp only [State.bytes, State.words, List.flatMap_cons, List.flatMap_nil, List.length_append,
    List.length_nil, hword]
  omega

theorem Digest.sized_sha256 : Digest.sha256.Sized where
  hash _ := Sha2.State.length_bytes _
  hmac _ _ := Sha2.State.length_bytes _
  saltedPassword _ _ _ := Sha2.State.length_bytes _

theorem Digest.sized_sha512 : Digest.sha512.Sized where
  hash _ := Sha2.State.length_bytes _
  hmac _ _ := Sha2.State.length_bytes _
  saltedPassword _ _ _ := Sha2.State.length_bytes _

/-- Combining with the same bytes once more undoes it. -/
theorem xorBytes_cancel : ∀ {a b : Bytes}, a.length = b.length → xorBytes (xorBytes a b) b = a
  | [], _, _ => rfl
  | x :: xs, y :: ys, h => by
    have ih : xorBytes (xorBytes xs ys) ys = xs := xorBytes_cancel (Nat.succ.inj h)
    have hxy : x ^^^ y ^^^ y = x := by rw [UInt8.xor_assoc, UInt8.xor_self, UInt8.xor_zero]
    calc xorBytes (xorBytes (x :: xs) (y :: ys)) (y :: ys)
      _ = (x ^^^ y ^^^ y) :: xorBytes (xorBytes xs ys) ys := rfl
      _ = x :: xs := by rw [hxy, ih]

end IrcClient
