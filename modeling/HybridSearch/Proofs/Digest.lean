import HybridSearch.Digest.Sha1
import Mathlib.Data.List.Range

/-!
# Digests that can be worked out

The eighty words of a block are pushed to an array, and each word and state refers to earlier ones.
Here the words stand in a list with the latest first, and each is a number before the next one is
asked for, so that a digest can be worked out inside a proof.
-/

namespace HybridSearch.Digest

/-- Goes on with a word once it is known as a number. -/
def settle {α : Type} (x : UInt32) (next : UInt32 → α) : α :=
  match x.toNat with
  | 0 => next 0
  | n + 1 => next (.ofNat (n + 1))

theorem settle_eq {α : Type} (x : UInt32) (next : UInt32 → α) : settle x next = next x := by
  have hword : UInt32.ofNat x.toNat = x := UInt32.ofNat_toNat
  rw [settle]
  cases hx : x.toNat with
  | zero => rw [← hword, hx]; rfl
  | succ n => rw [← hword, hx]

/-! ### The words of a block -/

/-- The word that the schedule goes on with, from those before it, the latest first. -/
def nextWord (ws : List UInt32) : UInt32 :=
  rotateLeft (ws.getD 2 0 ^^^ ws.getD 7 0 ^^^ ws.getD 13 0 ^^^ ws.getD 15 0) 1

/-- Some more words of a schedule, the latest first. -/
def spread : Nat → List UInt32 → List UInt32
  | 0, ws => ws
  | n + 1, ws => settle (nextWord ws) fun w => spread n (w :: ws)

def firstWords (block : List UInt8) : List UInt32 := (List.range 16).map (wordAt block)

theorem getD_eq_reverse {w : Array UInt32} {i k : Nat} (hk : i + k + 1 = w.size) :
    w.getD i 0 = w.toList.reverse.getD k 0 := by
  have hi : w.size - 1 - k = i := by omega
  rw [List.getD_eq_getElem?_getD, List.getElem?_reverse (by simp; omega)]
  simp [Array.getD_eq_getD_getElem?, hi]

theorem spread_toList_reverse (n i : Nat) {w : Array UInt32} (hsize : w.size = i + 16) :
    ((List.range' i n).foldl (fun w i => w.push (rotateLeft
      (w.getD (i + 13) 0 ^^^ w.getD (i + 8) 0 ^^^ w.getD (i + 2) 0 ^^^ w.getD i 0) 1))
      w).toList.reverse = spread n w.toList.reverse := by
  induction n generalizing i w with
  | zero => rfl
  | succ n ih =>
      have hword : rotateLeft (w.getD (i + 13) 0 ^^^ w.getD (i + 8) 0 ^^^ w.getD (i + 2) 0 ^^^
          w.getD i 0) 1 = nextWord w.toList.reverse := by
        have h₂ := getD_eq_reverse (w := w) (i := i + 13) (k := 2) (by omega)
        have h₇ := getD_eq_reverse (w := w) (i := i + 8) (k := 7) (by omega)
        have h₁₃ := getD_eq_reverse (w := w) (i := i + 2) (k := 13) (by omega)
        have h₁₅ := getD_eq_reverse (w := w) (i := i) (k := 15) (by omega)
        rw [h₂, h₇, h₁₃, h₁₅, nextWord]
      rw [List.range'_succ, List.foldl_cons, hword, ih (i + 1) (by simp [hsize]), spread,
        settle_eq, Array.toList_push, List.reverse_append]
      rfl

theorem schedule_toList (block : List UInt8) :
    (schedule block).toList = (spread 64 (firstWords block).reverse).reverse := by
  rw [schedule, List.range_eq_range' (n := 64), ← List.reverse_inj,
    spread_toList_reverse 64 0 (by simp), List.reverse_reverse]
  rfl

theorem length_spread (n : Nat) (ws : List UInt32) : (spread n ws).length = n + ws.length := by
  induction n generalizing ws with
  | zero => simp [spread]
  | succ n ih =>
      rw [spread, settle_eq, ih, List.length_cons]
      omega

/-! ### The rounds -/

namespace State

/-- The rounds from the `i`th on, with one word each. -/
def rounds (s : State) : Nat → List UInt32 → State
  | _, [] => s
  | i, w :: ws => settle (rotateLeft s.a 5 + s.mix i + s.e + w) fun a =>
      rounds ⟨a, s.a, rotateLeft s.b 30, s.c, s.d⟩ (i + 1) ws

theorem foldl_round {w : Array UInt32} {ws : List UInt32} {i : Nat} (hws : w.toList.drop i = ws)
    (s : State) : (List.range' i ws.length).foldl (round w) s = s.rounds i ws := by
  induction ws generalizing i s with
  | nil => rfl
  | cons x ws ih =>
      have hword : w.getD i 0 = x := by
        have hfirst : w.toList[i]? = some x := by
          rw [← List.head?_drop, hws, List.head?_cons]
        simpa [Array.getD_eq_getD_getElem?] using congrArg (·.getD 0) hfirst
      have hlater : w.toList.drop (i + 1) = ws := by
        rw [← List.tail_drop, hws, List.tail_cons]
      rw [List.length_cons, List.range'_succ, List.foldl_cons, ih hlater, rounds, settle_eq, round,
        hword]

/-- A block taken into a state, by way of the list of its words. -/
def takeIn (s : State) (block : List UInt8) : State :=
  let t := s.rounds 0 (spread 64 (firstWords block).reverse).reverse
  ⟨s.a + t.a, s.b + t.b, s.c + t.c, s.d + t.d, s.e + t.e⟩

theorem absorb_eq (s : State) (block : List UInt8) : s.absorb block = s.takeIn block := by
  have hlength : (schedule block).toList.length = 80 := by
    simp [schedule_toList, length_spread, firstWords]
  have hrounds := foldl_round (w := schedule block) (i := 0) rfl s
  rw [List.drop_zero, hlength, ← List.range_eq_range', schedule_toList] at hrounds
  rw [absorb, hrounds, takeIn]

end State

theorem sha1_eq (message : List UInt8) : sha1 message =
    (((List.range ((padded message).length / 64)).map fun i =>
      ((padded message).drop (64 * i)).take 64).foldl State.takeIn .initial).bytes := by
  have habsorb : State.absorb = State.takeIn := funext₂ State.absorb_eq
  rw [sha1, habsorb]

/-! ### The bytes of a text -/

theorem toList_loop (bs : ByteArray) (i : Nat) (r : List UInt8) :
    ByteArray.toList.loop bs i r = r.reverse ++ bs.data.toList.drop i := by
  induction i, r using ByteArray.toList.loop.induct bs with
  | case1 i r hi ih =>
      have hi' : i < bs.data.toList.length := hi
      rw [ByteArray.toList.loop, if_pos hi, ih, List.drop_eq_getElem_cons hi', List.reverse_cons,
        List.append_assoc]
      have hbyte : bs.get! i = bs.data.toList[i] := getElem!_pos bs.data i hi
      rw [hbyte]
      rfl
  | case2 i r hi =>
      have hi' : bs.data.toList.length ≤ i := Nat.le_of_not_lt hi
      rw [ByteArray.toList.loop, if_neg hi, List.drop_eq_nil_of_le hi', List.append_nil]

theorem toList_toUTF8 (s : String) : s.toUTF8.toList = s.toList.flatMap String.utf8EncodeChar := by
  change s.toByteArray.toList = _
  rw [← String.utf8Encode_toList, ByteArray.toList, toList_loop, List.drop_zero, List.utf8Encode,
    List.toList_data_toByteArray]
  rfl
end HybridSearch.Digest
