import Rollout.Pattern.Form
/-!
# Code point ranges as UTF-8 byte ranges

The encodings of a range of code points are matched byte by byte by a short list of sequences
of byte ranges: every sequence holds encodings of one length, and in it each byte ranges
between its bounds independently of the others. The range is cut, in this order of rules, into
pieces of which that holds:

* the surrogates are cut out;
* a piece is cut where the encoded length changes (after `7F`, `7FF` and `FFFF`);
* an ASCII piece is one sequence of one byte;
* otherwise a piece is cut where the bytes after the lead byte stop running over all their
  values, trying the last byte first;
* a piece left whole is the sequence of the byte ranges between the encodings of its ends.

Pieces are taken lowest first, so the sequences come in the order of the code points.

* `sequences_ascii`: an ASCII range is one sequence of one byte range.
-/

-- Powers of numbers use the core instance, whatever else is imported.
attribute [local instance(high)] instPowNat

namespace Rollout.Pattern

/-- The largest code point encoded in `n` bytes. -/
def largestOfLength : Nat → Nat
  | 1 => 0x7F
  | 2 => 0x7FF
  | 3 => 0xFFFF
  | _ => 0x10FFFF

/-- One step of cutting the top piece: the pieces to put back on the stack (the first is taken
next), or a finished sequence. -/
def cutPiece (lo hi : Nat) : List (Nat × Nat) ⊕ List (Nat × Nat) :=
  if lo < 0xE000 && hi > 0xD7FF then .inl [(lo, 0xD7FF), (0xE000, hi)]
  else if hi < lo then .inl []
  else
    match [1, 2, 3].find? (fun n => lo ≤ largestOfLength n && largestOfLength n < hi) with
    | some n => .inl [(lo, largestOfLength n), (largestOfLength n + 1, hi)]
    | none =>
      if hi ≤ 0x7F then .inr [(lo, hi)]
      else
        let cut := [1, 2, 3].findSome? fun (n : Nat) =>
          let block : Nat := 2 ^ (6 * n)
          if lo / block != hi / block then
            if lo % block != 0 then some [(lo, lo - lo % block + block - 1),
              (lo - lo % block + block, hi)]
            else if hi % block != block - 1 then some [(lo, hi - hi % block - 1),
              (hi - hi % block, hi)]
            else none
          else none
        match cut with
        | some pieces => .inl pieces
        | none => .inr ((utf8Bytes lo).zip (utf8Bytes hi))

/-- Cuts the pieces on a stack, with fuel for the number of steps. -/
def cutAll : Nat → List (Nat × Nat) → Array (List (Nat × Nat)) → Array (List (Nat × Nat))
  | 0, _, out => out
  | _, [], out => out
  | fuel + 1, (lo, hi) :: stack, out =>
    match cutPiece lo hi with
    | .inl pieces => cutAll fuel (pieces ++ stack) out
    | .inr seq => cutAll fuel stack (out.push seq)

/-- The sequences of byte ranges that match the encodings of a range of code points. -/
def byteSequences (lo hi : Nat) : List (List (Nat × Nat)) :=
  (cutAll 256 [(lo, hi)] #[]).toList

theorem sequences_ascii : byteSequences 0x30 0x39 = [[(0x30, 0x39)]] := by decide

end Rollout.Pattern
