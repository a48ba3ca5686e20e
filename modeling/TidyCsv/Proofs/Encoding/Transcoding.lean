import TidyCsv.Proofs.Encoding.Machine
import TidyCsv.Proofs.Text.Decoding
import TidyCsv.Proofs.Text.Utf16

/-! # Decoding in pieces is decoding at once

Into whatever pieces a content falls, the text that is decoded is the one that the content encodes
after one mark of its encoding, and decoding fails where there is no such text. Where it fails
depends on the pieces in one case only: a lone high surrogate in UTF-16 is noticed with the unit
after it, and two bytes later if a piece ends between the two. -/

namespace TidyCsv.Transcoding

open Machine

variable {offset taken back p : Nat} {pieces : List Bytes} {bytes content : Bytes}
  {text done : List Char}

/-! ## UTF-8 -/

section Utf8

variable {state : Utf8.State} {b : UInt8}

theorem steady_utf8Machine : utf8Machine.Steady where
  resume _ := rfl
  back {state b back} h := by
    rcases Utf8.step_cases state b with ⟨next, -, hstep⟩ | ⟨c, hstep⟩ | ⟨next, tokens, hstep⟩
    · simp [utf8Machine, hstep] at h
    · simp [utf8Machine, hstep] at h
    · simp only [utf8Machine, hstep, Move.refuse.injEq] at h
      split_ifs at h <;> omega

theorem utf8_readFrom (state : Utf8.State) (position : Nat) (done : List Char) (bytes : Bytes) :
    Utf8.readFrom state position done bytes =
      (done.reverse ++ utf8Machine.textFrom state bytes,
        match utf8Machine.reach state position bytes with
        | .ok next => if utf8Machine.isPending next then some .truncated else none
        | .error (taken, back) => some (.malformed (taken - back))) := by
  induction bytes generalizing state position done with
  | nil => cases state <;> simp [Utf8.readFrom, textFrom, reach, utf8Machine]
  | cons b rest ih =>
      rcases Utf8.step_cases state b with ⟨next, -, hstep⟩ | ⟨c, hstep⟩ | ⟨next, tokens, hstep⟩
      · have hmove : utf8Machine.step state b = .take next none := by simp [utf8Machine, hstep]
        rw [Utf8.readFrom_of_nil hstep, ih, reach_of_take hmove, textFrom_of_take hmove]
        rfl
      · have hmove : utf8Machine.step state b = .take .ready (some c) := by
          simp [utf8Machine, hstep]
        rw [Utf8.readFrom_of_char hstep, ih, reach_of_take hmove, textFrom_of_take hmove]
        simp
      · have hmove : utf8Machine.step state b = .refuse (if state = .ready then 0 else 1) := by
          simp [utf8Machine, hstep]
        rw [Utf8.readFrom_of_malformed hstep, reach_of_refuse hmove, textFrom_of_refuse hmove]
        split_ifs <;> simp

end Utf8

/-! ## UTF-16 -/

section Utf16

variable {order : Utf16.ByteOrder} {first : Option UInt8} {high : Option Nat} {a b : UInt8}
  {parted : Bool}

theorem step_first :
    (utf16Machine order).step ⟨none, high, parted⟩ b = .take ⟨some b, high, parted⟩ none := rfl

theorem step_single (hhigh : Utf16.isHigh (order.unit a b) = false)
    (hlow : Utf16.isLow (order.unit a b) = false) :
    (utf16Machine order).step ⟨some a, none, parted⟩ b =
      .take .ready (some (Char.ofNat (order.unit a b))) := by
  simp [utf16Machine, hhigh, hlow]

theorem step_high (hhigh : Utf16.isHigh (order.unit a b) = true) :
    (utf16Machine order).step ⟨some a, none, parted⟩ b =
      .take ⟨none, some (order.unit a b), parted⟩ none := by
  simp [utf16Machine, hhigh]

theorem step_loneLow (hhigh : Utf16.isHigh (order.unit a b) = false)
    (hlow : Utf16.isLow (order.unit a b) = true) :
    (utf16Machine order).step ⟨some a, none, parted⟩ b = .refuse 0 := by
  simp [utf16Machine, hhigh, hlow]

theorem step_pair {unit : Nat} (hlow : Utf16.isLow (order.unit a b) = true) :
    (utf16Machine order).step ⟨some a, some unit, parted⟩ b =
      .take .ready (some (Utf16.pairChar unit (order.unit a b))) := by
  simp [utf16Machine, hlow]

theorem step_loneHigh {unit : Nat} (hlow : Utf16.isLow (order.unit a b) = false) :
    (utf16Machine order).step ⟨some a, some unit, parted⟩ b =
      .refuse (if parted then 0 else 2) := by
  simp [utf16Machine, hlow]

theorem utf16_readFrom (position : Nat) (done : List Char) (bytes : Bytes) :
    Utf16.readFrom order position done bytes =
      (done.reverse ++ (utf16Machine order).textFrom .ready bytes,
        match (utf16Machine order).reach .ready position bytes with
        | .ok next => if next.isPending then some .truncated else none
        | .error (taken, back) => some (.malformed (taken - back))) := by
  fun_induction Utf16.readFrom order position done bytes with
  | case1 => simp [textFrom, reach, Utf16.State.ready, Utf16.State.isPending]
  | case2 => simp [textFrom, reach, utf16Machine, Utf16.State.ready, Utf16.State.isPending]
  | case3 position done a b unit hhigh c d rest next hlow ih =>
      rw [ih, Utf16.State.ready, reach_of_take step_first, reach_of_take (step_high hhigh),
        reach_of_take step_first, reach_of_take (step_pair hlow), textFrom_of_take step_first,
        textFrom_of_take (step_high hhigh), textFrom_of_take step_first,
        textFrom_of_take (step_pair hlow)]
      simp [Utf16.State.ready, unit, next]
  | case4 position done a b unit hhigh c d rest next hlow =>
      rw [Bool.not_eq_true] at hlow
      rw [Utf16.State.ready, reach_of_take step_first, reach_of_take (step_high hhigh),
        reach_of_take step_first, reach_of_refuse (step_loneHigh hlow), textFrom_of_take step_first,
        textFrom_of_take (step_high hhigh), textFrom_of_take step_first,
        textFrom_of_refuse (step_loneHigh hlow)]
      simp
  | case5 position done a b rest unit hhigh hshort =>
      rw [Utf16.State.ready, reach_of_take step_first, reach_of_take (step_high hhigh),
        textFrom_of_take step_first, textFrom_of_take (step_high hhigh)]
      rcases rest with _ | ⟨c, _ | ⟨d, rest⟩⟩
      · simp [textFrom, reach, Utf16.State.isPending]
      · simp [textFrom, reach, step_first, Utf16.State.isPending]
      · exact absurd rfl (hshort c d rest)
  | case6 position done a b rest unit hhigh hlow =>
      rw [Bool.not_eq_true] at hhigh
      rw [Utf16.State.ready, reach_of_take step_first, reach_of_refuse (step_loneLow hhigh hlow),
        textFrom_of_take step_first, textFrom_of_refuse (step_loneLow hhigh hlow)]
      simp
  | case7 position done a b rest unit hhigh hlow ih =>
      rw [Bool.not_eq_true] at hhigh hlow
      rw [ih, Utf16.State.ready, reach_of_take step_first,
        reach_of_take (step_single hhigh hlow), textFrom_of_take step_first,
        textFrom_of_take (step_single hhigh hlow)]
      simp [Utf16.State.ready, unit]

/-- How many bytes are pending. -/
def pendingSize (first : Option UInt8) (high : Option Nat) : Nat :=
  (if first.isSome then 1 else 0) + if high.isSome then 2 else 0

/-- In a piece, the pending bytes are parted if there are more of them than have been taken of the
piece, and a lone high surrogate is noticed later then. Otherwise the machine does as if the piece
went on from the bytes before it. -/
theorem reach_utf16 (offset read : Nat) :
    (utf16Machine order).reach ⟨first, high, decide (read < pendingSize first high)⟩ read bytes =
      match (utf16Machine order).reach ⟨first, high, false⟩ (offset + read) bytes with
      | .ok next => .ok ⟨next.first, next.high,
          decide (read + bytes.length < pendingSize next.first next.high)⟩
      | .error (taken, back) =>
        .error (taken - offset, if back = 2 ∧ taken < offset + 4 then 0 else back) := by
  induction bytes generalizing first high read with
  | nil => rfl
  | cons b rest ih =>
      have hlength : read + (b :: rest).length = read + 1 + rest.length := by
        rw [List.length_cons]
        omega
      cases first with
      | none =>
          have hsize : decide (read < pendingSize none high) =
              decide (read + 1 < pendingSize (some b) high) := by
            simp [pendingSize]
            omega
          rw [reach_of_take step_first, reach_of_take step_first, hsize, ih, hlength]
          rfl
      | some a =>
          have hready : (utf16Machine order).reach .ready (read + 1) rest = _ :=
            ih (read + 1)
          cases high with
          | none =>
              by_cases hhigh : Utf16.isHigh (order.unit a b) = true
              · have hsize : decide (read < pendingSize (some a) none) =
                    decide (read + 1 < pendingSize none (some (order.unit a b))) := by
                  rw [decide_eq_decide]
                  simp only [pendingSize, Option.isSome_some, Option.isSome_none, if_true,
                    Bool.false_eq_true, if_false]
                  omega
                rw [reach_of_take (step_high hhigh), reach_of_take (step_high hhigh), hsize, ih,
                  hlength]
                rfl
              · rw [Bool.not_eq_true] at hhigh
                by_cases hlow : Utf16.isLow (order.unit a b) = true
                · rw [reach_of_refuse (step_loneLow hhigh hlow),
                    reach_of_refuse (step_loneLow hhigh hlow)]
                  simp
                  omega
                · rw [Bool.not_eq_true] at hlow
                  rw [reach_of_take (step_single hhigh hlow),
                    reach_of_take (step_single hhigh hlow), hready, hlength]
                  rfl
          | some unit =>
              by_cases hlow : Utf16.isLow (order.unit a b) = true
              · rw [reach_of_take (step_pair hlow), reach_of_take (step_pair hlow), hready, hlength]
                rfl
              · rw [Bool.not_eq_true] at hlow
                rw [reach_of_refuse (step_loneHigh hlow), reach_of_refuse (step_loneHigh hlow)]
                simp [pendingSize]
                omega

theorem textFrom_utf16 (parted : Bool) :
    (utf16Machine order).textFrom ⟨first, high, parted⟩ bytes =
      (utf16Machine order).textFrom ⟨first, high, false⟩ bytes := by
  induction bytes generalizing first high with
  | nil => rfl
  | cons b rest ih =>
      cases first with
      | none =>
          rw [textFrom_of_take step_first, textFrom_of_take step_first, ih]
      | some a =>
          cases high with
          | none =>
              cases hhigh : Utf16.isHigh (order.unit a b) with
              | true =>
                  rw [textFrom_of_take (step_high hhigh), textFrom_of_take (step_high hhigh), ih]
              | false =>
                  cases hlow : Utf16.isLow (order.unit a b) with
                  | true =>
                      rw [textFrom_of_refuse (step_loneLow hhigh hlow),
                        textFrom_of_refuse (step_loneLow hhigh hlow)]
                  | false =>
                      rw [textFrom_of_take (step_single hhigh hlow),
                        textFrom_of_take (step_single hhigh hlow)]
          | some unit =>
              cases hlow : Utf16.isLow (order.unit a b) with
              | true => rw [textFrom_of_take (step_pair hlow), textFrom_of_take (step_pair hlow)]
              | false =>
                  rw [textFrom_of_refuse (step_loneHigh hlow),
                    textFrom_of_refuse (step_loneHigh hlow)]

theorem resume_utf16 (state : Utf16.State) :
    (utf16Machine order).resume state =
      ⟨state.first, state.high, decide (0 < pendingSize state.first state.high)⟩ := by
  rcases state with ⟨_ | a, _ | unit, parted⟩ <;> rfl

/-- Bytes that go on from those before them do not end parted. -/
theorem parted_of_reach {next : Utf16.State}
    (h : (utf16Machine order).reach ⟨first, high, false⟩ taken bytes = .ok next) :
    next = ⟨next.first, next.high, false⟩ := by
  have hkeep : ∀ (state : Utf16.State) b next char, state.parted = false →
      (utf16Machine order).step state b = .take next char → next.parted = false := by
    rintro ⟨first, high, parted⟩ b next char rfl hstep
    simp only [utf16Machine] at hstep
    split at hstep
    · cases hstep
      rfl
    · split at hstep
      · split_ifs at hstep
        cases hstep
        rfl
      · split_ifs at hstep
        all_goals
          cases hstep
          rfl
  have hparted : next.parted = false :=
    invariant_of_reach (P := fun state => state.parted = false) hkeep h rfl
  rw [← hparted]

theorem back_of_reach_utf16 {state : Utf16.State} {n : Nat}
    (h : (utf16Machine order).reach state taken bytes = .error (n, back)) :
    back = 0 ∨ back = 2 := by
  obtain ⟨⟨middle, b, hstep⟩, -⟩ := step_of_reach h
  simp only [utf16Machine] at hstep
  split at hstep
  · simp at hstep
  · split at hstep
    · split_ifs at hstep
      all_goals
        cases hstep
        simp
    · split_ifs at hstep
      cases hstep
      simp

theorem textOver_utf16 {state : Utf16.State} :
    (utf16Machine order).textOver state pieces =
      (utf16Machine order).textFrom ⟨state.first, state.high, false⟩ pieces.flatten := by
  induction pieces generalizing state with
  | nil => rfl
  | cons piece rest ih =>
      rw [textOver, resume_utf16, textFrom_utf16, reach_utf16 0 0, List.flatten_cons]
      cases hreach : (utf16Machine order).reach ⟨state.first, state.high, false⟩ (0 + 0) piece with
      | error fault => rw [(append_of_error hreach _).2, List.append_nil]
      | ok next =>
          rw [textFrom_append_of_ok hreach]
          dsimp only
          rw [ih, textFrom_utf16 next.parted]

theorem le_of_mem_cutsFrom {k : Nat} (h : k ∈ cutsFrom offset pieces) : offset ≤ k := by
  induction pieces generalizing offset with
  | nil => simp [cutsFrom] at h
  | cons piece rest ih =>
      rcases List.mem_cons.mp h with rfl | hrest
      · omega
      · have := ih hrest
        omega

/-- Decoding in pieces fails as decoding at once does, but later by the unit after a lone high
surrogate if a piece ends between the two. -/
theorem faultOver_utf16 {state : Utf16.State} :
    (utf16Machine order).faultOver offset state pieces =
      match (utf16Machine order).reach ⟨state.first, state.high, false⟩ offset pieces.flatten with
      | .ok next => if next.isPending then some (offset + pieces.flatten.length) else none
      | .error (taken, back) =>
        some (taken -
          if back = 2 ∧ ∃ k ∈ offset :: cutsFrom offset pieces, k < taken ∧ taken < k + 4
          then 0 else back) := by
  induction pieces generalizing offset state with
  | nil => rfl
  | cons piece rest ih =>
      rw [faultOver, resume_utf16, reach_utf16 offset 0, List.flatten_cons, Nat.add_zero]
      cases hreach : (utf16Machine order).reach ⟨state.first, state.high, false⟩ offset piece with
      | error fault =>
          obtain ⟨taken, back⟩ := fault
          rw [(append_of_error hreach _).1]
          obtain ⟨-, hleast, hmost⟩ := step_of_reach hreach
          -- the later cuts come after the bytes that were taken
          have hcut : (∃ k ∈ offset :: cutsFrom offset (piece :: rest), k < taken ∧ taken < k + 4) ↔
              taken < offset + 4 := by
            constructor
            · rintro ⟨k, hk, hbefore, hnear⟩
              simp only [cutsFrom, List.mem_cons] at hk
              rcases hk with rfl | rfl | hk
              · exact hnear
              · omega
              · have := le_of_mem_cutsFrom hk
                omega
            · intro hnear
              exact ⟨offset, by simp, hleast, hnear⟩
          simp only [hcut, Option.some.injEq]
          rcases back_of_reach_utf16 hreach with rfl | rfl
          · simp
            omega
          · by_cases hnear : taken < offset + 4 <;> simp [hnear] <;> omega
      | ok next =>
          rw [reach_append_of_ok hreach, parted_of_reach hreach]
          dsimp only
          rw [ih]
          cases hrest : (utf16Machine order).reach ⟨next.first, next.high, false⟩
              (offset + piece.length) rest.flatten with
          | ok last => simp [Nat.add_assoc]
          | error fault =>
              obtain ⟨taken, back⟩ := fault
              obtain ⟨-, hleast, -⟩ := step_of_reach hrest
              -- where the start of this piece is near, its end is nearer
              have hcut : (∃ k ∈ offset :: cutsFrom offset (piece :: rest),
                  k < taken ∧ taken < k + 4) ↔
                    ∃ k ∈ (offset + piece.length) :: cutsFrom (offset + piece.length) rest,
                      k < taken ∧ taken < k + 4 := by
                constructor
                · rintro ⟨k, hk, hbefore, hnear⟩
                  rcases List.mem_cons.mp hk with rfl | hk
                  · exact ⟨_, List.mem_cons_self, hleast, by omega⟩
                  · exact ⟨k, hk, hbefore, hnear⟩
                · rintro ⟨k, hk, hbefore, hnear⟩
                  exact ⟨k, List.mem_cons_of_mem _ hk, hbefore, hnear⟩
              simp only [hcut]

theorem reach_encode (text : List Char) (taken : Nat) :
    (utf16Machine order).reach .ready taken (Utf16.encode order text) = .ok .ready := by
  have hread : Utf16.readFrom order taken [] (Utf16.encode order text) = _ :=
    utf16_readFrom taken [] _
  rw [Utf16.readFrom_encode, Prod.mk.injEq] at hread
  obtain ⟨-, hfault⟩ := hread
  cases hreach : (utf16Machine order).reach .ready taken (Utf16.encode order text) with
  | error fault => simp [hreach] at hfault
  | ok next =>
      have hready : next.isPending = false := by simpa [hreach] using hfault
      rw [parted_of_reach hreach]
      simp only [Utf16.State.isPending, Bool.or_eq_false_iff, Option.isSome_eq_false_iff,
        Option.isNone_iff_eq_none] at hready
      rw [hready.1, hready.2]
      rfl

theorem loneHigh_of_reach {position : Nat} (done : List Char)
    (h : (utf16Machine order).reach .ready position bytes = .error (taken, 2)) :
    ∃ p, taken = position + p + 4 ∧ Utf16.LoneHighAt order bytes p := by
  -- the characters are read as `Utf16.readFrom` reads them
  fun_induction Utf16.readFrom order position done bytes with
  | case1 => simp [reach] at h
  | case2 => simp [reach, Utf16.State.ready, step_first] at h
  | case3 position done a b unit hhigh c d rest next hlow ih =>
      rw [Utf16.State.ready, reach_of_take step_first, reach_of_take (step_high hhigh),
        reach_of_take step_first, reach_of_take (step_pair hlow)] at h
      obtain ⟨p, rfl, before, high, lone, tail, rfl, rfl, hlone⟩ := ih h
      refine ⟨_, ?_, Utf16.pairChar unit next :: before, high, lone, tail, ?_, rfl, hlone⟩
      · simp [Utf16.encodeChar_pair hhigh hlow, unit, next, Utf16.bytes_unit]
        omega
      · simp [Utf16.encodeChar_pair hhigh hlow, unit, next, Utf16.bytes_unit]
  | case4 position done a b unit hhigh c d rest next hlow =>
      rw [Bool.not_eq_true] at hlow
      rw [Utf16.State.ready, reach_of_take step_first, reach_of_take (step_high hhigh),
        reach_of_take step_first, reach_of_refuse (step_loneHigh hlow)] at h
      refine ⟨0, ?_, [], unit, next, rest, ?_, rfl, hhigh, Utf16.unit_lt order c d, hlow⟩
      · simpa [eq_comm] using h
      · simp [unit, next, Utf16.bytes_unit]
  | case5 position done a b rest unit hhigh hshort =>
      rw [Utf16.State.ready, reach_of_take step_first, reach_of_take (step_high hhigh)] at h
      rcases rest with _ | ⟨c, _ | ⟨d, rest⟩⟩
      · simp [reach] at h
      · simp [reach, step_first] at h
      · exact absurd rfl (hshort c d rest)
  | case6 position done a b rest unit hhigh hlow =>
      rw [Bool.not_eq_true] at hhigh
      rw [Utf16.State.ready, reach_of_take step_first,
        reach_of_refuse (step_loneLow hhigh hlow)] at h
      simp at h
  | case7 position done a b rest unit hhigh hlow ih =>
      rw [Bool.not_eq_true] at hhigh hlow
      rw [Utf16.State.ready, reach_of_take step_first,
        reach_of_take (step_single hhigh hlow)] at h
      obtain ⟨p, rfl, before, high, lone, tail, rfl, rfl, hlone⟩ := ih h
      refine ⟨_, ?_, Char.ofNat unit :: before, high, lone, tail, ?_, rfl, hlone⟩
      · simp [Utf16.encodeChar_unit hhigh hlow, unit]
        omega
      · simp [Utf16.encodeChar_unit hhigh hlow, unit]

theorem reach_of_loneHigh (h : Utf16.LoneHighAt order bytes p) :
    (utf16Machine order).reach .ready 0 bytes = .error (p + 4, 2) := by
  obtain ⟨before, high, next, rest, rfl, rfl, hhigh, hnext, hlow⟩ := h
  have hbound : high < 0x10000 := by
    simp only [Utf16.isHigh, Bool.and_eq_true, decide_eq_true_eq] at hhigh
    omega
  obtain ⟨a, b, hbytes, rfl⟩ := Utf16.exists_bytes order hbound
  obtain ⟨c, d, hbytes', rfl⟩ := Utf16.exists_bytes order hnext
  rw [reach_append_of_ok (reach_encode before 0), hbytes, hbytes']
  simp only [List.cons_append, List.nil_append]
  rw [Utf16.State.ready, reach_of_take step_first, reach_of_take (step_high hhigh),
    reach_of_take step_first, reach_of_refuse (step_loneHigh hlow)]
  simp

end Utf16

/-! ## Every decoder -/

/-- Bytes without the mark, if they open with it. -/
def withoutMark (mark bytes : Bytes) : Bytes :=
  if mark <+: bytes then bytes.drop mark.length else bytes

theorem withoutMark_append (mark rest : Bytes) : withoutMark mark (mark ++ rest) = rest := by
  simp [withoutMark]

theorem withoutMark_of_not_prefix {mark : Bytes} (h : ¬ mark <+: bytes) :
    withoutMark mark bytes = bytes := if_neg h

/-- What encodes a text after one mark is what encodes the text with the mark, if there is one. -/
theorem withoutMark_eq_iff {encode : List Char → Bytes} {mark : Bytes}
    (hmark : ∀ rest, encode ('\uFEFF' :: rest) = mark ++ encode rest)
    (hopens : ∀ {whole}, mark <+: encode whole → whole.head? = some '\uFEFF') :
    withoutMark mark content = encode text ↔
      ∃ whole, content = encode whole ∧ unmarked whole = text := by
  constructor
  · intro h
    unfold withoutMark at h
    split_ifs at h with hprefix
    · obtain ⟨rest, rfl⟩ := hprefix
      rw [List.drop_left] at h
      exact ⟨'\uFEFF' :: text, by rw [hmark, h], rfl⟩
    · refine ⟨text, h, ?_⟩
      cases text with
      | nil => rfl
      | cons c rest =>
          have hother : c ≠ '\uFEFF' := by
            rintro rfl
            exact hprefix ⟨encode rest, by rw [h, hmark]⟩
          rw [unmarked_cons, if_neg hother]
  · rintro ⟨whole, rfl, rfl⟩
    unfold withoutMark
    split_ifs with hprefix
    · obtain ⟨rest, rfl⟩ := List.head?_eq_some_iff.mp (hopens hprefix)
      rw [hmark, List.drop_left]
      rfl
    · cases whole with
      | nil => rfl
      | cons c rest =>
          have hother : c ≠ '\uFEFF' := by
            rintro rfl
            exact hprefix ⟨encode rest, (hmark rest).symm⟩
          rw [unmarked_cons, if_neg hother]

namespace Decoder

/-- A content decodes to a text if it encodes the text, after at most one mark. -/
def Decodes (decoder : Decoder) (content : Bytes) (text : List Char) : Prop :=
  match decoder with
  | .utf8 => withoutMark Bytes.utf8Mark content = Utf8.encode text
  | .utf16 order => withoutMark order.mark content = Utf16.encode order text
  | .codePage page => page.decode content = text
  | .privateBytes => content.map privateChar = text
  | .refuse => content = [] ∧ text = []

/-- After how many bytes reading a whole content fails, if it does. -/
def faultAt? (decoder : Decoder) (content : Bytes) : Option Nat :=
  match decoder with
  | .utf8 =>
    (Utf8.read content).2.map fun
      | .malformed consumed => consumed
      | .truncated => content.length
  | .utf16 order =>
    (Utf16.read order content).2.map fun
      | .malformed consumed => consumed
      | .truncated => content.length
  | .codePage _ | .privateBytes => none
  | .refuse => if content = [] then none else some 1

/-- A piece ends between the two units at `p` of which the first is a lone high surrogate. -/
def Parts (decoder : Decoder) (pieces : List Bytes) (p : Nat) : Prop :=
  match decoder with
  | .utf16 order =>
    Utf16.LoneHighAt order pieces.flatten p ∧ ∃ k ∈ cutsFrom 0 pieces, p < k ∧ k < p + 4
  | _ => False

variable {decoder : Decoder}

/-! ### Where decoding fails -/

theorem faultAt?_utf16 (order : Utf16.ByteOrder) (content : Bytes) :
    faultAt? (.utf16 order) content =
      match (utf16Machine order).reach .ready 0 content with
      | .ok next => if next.isPending then some content.length else none
      | .error (taken, back) => some (taken - back) := by
  rw [faultAt?, Utf16.read, utf16_readFrom]
  cases hreach : (utf16Machine order).reach .ready 0 content with
  | error fault => simp
  | ok next => cases hpending : next.isPending <;> simp

theorem run_utf8 (h : ∀ piece ∈ pieces, piece.length ≤ pieceSize) :
    Decoder.run .utf8 pieces =
      ⟨unmarked (Utf8.read pieces.flatten).1, faultAt? .utf8 pieces.flatten⟩ := by
  have hinitial : utf8Machine.initial = .ready := rfl
  rw [Decoder.run, run_dropMark h, hinitial, steady_utf8Machine.textOver_eq,
    steady_utf8Machine.faultOver_eq, faultAt?, Utf8.read, utf8_readFrom]
  cases hreach : utf8Machine.reach .ready 0 pieces.flatten with
  | error fault => simp
  | ok next => cases hpending : utf8Machine.isPending next <;> simp

theorem failedAt_utf16 (h : ∀ piece ∈ pieces, piece.length ≤ pieceSize)
    (order : Utf16.ByteOrder) :
    (Decoder.run (.utf16 order) pieces).failedAt =
      match (utf16Machine order).reach .ready 0 pieces.flatten with
      | .ok next => if next.isPending then some pieces.flatten.length else none
      | .error (taken, back) =>
        some (taken - if back = 2 ∧ ∃ k ∈ (0 : Nat) :: cutsFrom 0 pieces, k < taken ∧ taken < k + 4
          then 0 else back) := by
  have hfault : (utf16Machine order).faultOver 0 (utf16Machine order).initial pieces = _ :=
    faultOver_utf16
  rw [Decoder.run, run_dropMark h, hfault, Nat.zero_add]
  rfl

theorem text_utf16 (h : ∀ piece ∈ pieces, piece.length ≤ pieceSize) (order : Utf16.ByteOrder) :
    (Decoder.run (.utf16 order) pieces).text = unmarked (Utf16.read order pieces.flatten).1 := by
  have hinitial : (utf16Machine order).initial = .ready := rfl
  rw [Decoder.run, run_dropMark h, hinitial, textOver_utf16, Utf16.read, utf16_readFrom]
  rfl

theorem steady_byteMachine (decodeByte : UInt8 → Char) : (byteMachine decodeByte).Steady where
  resume _ := rfl
  back h := by simp [byteMachine] at h

theorem run_byteMachine (h : ∀ piece ∈ pieces, piece.length ≤ pieceSize)
    (decodeByte : UInt8 → Char) :
    (byteMachine decodeByte).run outputSize pieces = ⟨pieces.flatten.map decodeByte, none⟩ := by
  have hreach : ∀ bytes taken, (byteMachine decodeByte).reach () taken bytes = .ok () := by
    intro bytes taken
    induction bytes generalizing taken with
    | nil => rfl
    | cons b rest ih => exact ih (taken + 1)
  have htext : ∀ bytes, (byteMachine decodeByte).textFrom () bytes = bytes.map decodeByte := by
    intro bytes
    induction bytes with
    | nil => rfl
    | cons b rest ih => exact congrArg (decodeByte b :: ·) ih
  have hsteady := steady_byteMachine decodeByte
  rw [run_eq h, hsteady.textOver_eq, hsteady.faultOver_eq, hreach, htext]
  rfl

theorem run_refuse (h : ∀ piece ∈ pieces, piece.length ≤ pieceSize) :
    Decoder.run .refuse pieces = ⟨[], faultAt? .refuse pieces.flatten⟩ := by
  have hsteady : refusingMachine.Steady := ⟨fun _ => rfl, fun h => by cases h; simp⟩
  rw [Decoder.run, run_eq h, hsteady.textOver_eq, hsteady.faultOver_eq]
  cases pieces.flatten with
  | nil => rfl
  | cons b rest => rfl

/-- A lone high surrogate that a piece parts from the unit after it is noticed after that unit. -/
theorem failedAt_of_parts (h : ∀ piece ∈ pieces, piece.length ≤ pieceSize)
    (hparts : decoder.Parts pieces p) : (decoder.run pieces).failedAt = some (p + 4) := by
  cases decoder with
  | utf16 order =>
      obtain ⟨hlone, k, hk, hafter, hbefore⟩ := hparts
      rw [failedAt_utf16 h, reach_of_loneHigh hlone]
      dsimp only
      rw [if_pos ⟨rfl, k, List.mem_cons_of_mem _ hk, by omega, by omega⟩]
      rfl
  | _ => exact hparts.elim

/-- Otherwise decoding in pieces fails where reading the whole content fails. -/
theorem failedAt_of_not_parts (h : ∀ piece ∈ pieces, piece.length ≤ pieceSize)
    (hparts : ∀ p, ¬ decoder.Parts pieces p) :
    (decoder.run pieces).failedAt = decoder.faultAt? pieces.flatten := by
  cases decoder with
  | utf8 => rw [run_utf8 h]
  | utf16 order =>
      rw [failedAt_utf16 h, faultAt?_utf16]
      cases hreach : (utf16Machine order).reach .ready 0 pieces.flatten with
      | ok next => rfl
      | error fault =>
          obtain ⟨taken, back⟩ := fault
          have hwhole : ¬ (back = 2 ∧ ∃ k ∈ 0 :: cutsFrom 0 pieces, k < taken ∧ taken < k + 4) := by
            rintro ⟨rfl, k, hk, hbefore, hafter⟩
            obtain ⟨p, rfl, hlone⟩ := loneHigh_of_reach [] hreach
            rcases List.mem_cons.mp hk with rfl | hk
            · omega
            · exact hparts p ⟨by simpa using hlone, k, hk, by omega, by omega⟩
          simp only [if_neg hwhole]
  | codePage page => rw [Decoder.run, run_byteMachine h]; rfl
  | privateBytes => rw [Decoder.run, run_byteMachine h]; rfl
  | refuse => rw [run_refuse h]

theorem faultAt?_of_parts (hparts : decoder.Parts pieces p) :
    decoder.faultAt? pieces.flatten = some (p + 2) := by
  cases decoder with
  | utf16 order =>
      rw [faultAt?_utf16, reach_of_loneHigh hparts.1]
      simp
  | _ => exact hparts.elim

theorem failedAt_eq_none_iff (h : ∀ piece ∈ pieces, piece.length ≤ pieceSize) :
    (decoder.run pieces).failedAt = none ↔ decoder.faultAt? pieces.flatten = none := by
  by_cases hparts : ∃ p, decoder.Parts pieces p
  · obtain ⟨p, hparts⟩ := hparts
    rw [failedAt_of_parts h hparts, faultAt?_of_parts hparts]
    simp
  · rw [failedAt_of_not_parts h (not_exists.mp hparts)]

/-- Decoding in pieces fails where reading the whole content fails, or two bytes further. -/
theorem faultAt?_of_failedAt {position : Nat} (h : ∀ piece ∈ pieces, piece.length ≤ pieceSize)
    (hfailed : (decoder.run pieces).failedAt = some position) :
    ∃ whole, decoder.faultAt? pieces.flatten = some whole ∧
      ((∀ p, ¬ decoder.Parts pieces p) → position = whole) ∧
      ∀ p, decoder.Parts pieces p → whole = p + 2 ∧ position = p + 4 := by
  by_cases hparts : ∃ p, decoder.Parts pieces p
  · obtain ⟨p, hparts⟩ := hparts
    refine ⟨p + 2, faultAt?_of_parts hparts, fun hnone => absurd hparts (hnone p), ?_⟩
    intro q hq
    rw [failedAt_of_parts h hparts] at hfailed
    have hsame := (faultAt?_of_parts hparts).symm.trans (faultAt?_of_parts hq)
    simp only [Option.some.injEq] at hfailed hsame
    omega
  · rw [not_exists] at hparts
    rw [failedAt_of_not_parts h hparts] at hfailed
    exact ⟨position, hfailed, fun _ => rfl, fun p hp => absurd hp (hparts p)⟩

/-! ### What is decoded -/

theorem unmarked_read_iff {Fault : Type} {read : List Char × Option Fault} :
    unmarked read.1 = text ∧ read.2 = none ↔
      ∃ whole, read = (whole, none) ∧ unmarked whole = text := by
  rcases read with ⟨found, fault⟩
  constructor
  · rintro ⟨rfl, rfl⟩
    exact ⟨found, rfl, rfl⟩
  · rintro ⟨whole, hread, rfl⟩
    obtain ⟨rfl, rfl⟩ := Prod.mk.inj hread
    exact ⟨rfl, rfl⟩

/-- Decoding succeeds where the content decodes, with the text that it decodes to. -/
theorem run_eq_iff (h : ∀ piece ∈ pieces, piece.length ≤ pieceSize) :
    decoder.run pieces = ⟨text, none⟩ ↔ decoder.Decodes pieces.flatten text := by
  have hsplit : decoder.run pieces = ⟨text, none⟩ ↔
      (decoder.run pieces).text = text ∧ (decoder.run pieces).failedAt = none := by
    rcases decoder.run pieces with ⟨found, fault⟩
    simp
  rw [hsplit, failedAt_eq_none_iff h]
  cases decoder with
  | utf8 =>
      have hmark : ∀ rest, Utf8.encode ('\uFEFF' :: rest) = Bytes.utf8Mark ++ Utf8.encode rest :=
        fun rest => by rw [Utf8.utf8Mark_eq_encodeChar]; rfl
      rw [Decodes, withoutMark_eq_iff hmark Utf8.head?_of_utf8Mark_isPrefix, run_utf8 h, faultAt?,
        Option.map_eq_none_iff]
      simp only [← Utf8.read_eq_none_iff]
      exact unmarked_read_iff
  | utf16 order =>
      have hmark : ∀ rest,
          Utf16.encode order ('\uFEFF' :: rest) = order.mark ++ Utf16.encode order rest :=
        fun rest => by rw [Utf16.encode_cons, Utf16.mark_eq_encodeChar]
      rw [Decodes, withoutMark_eq_iff hmark (Utf16.head?_of_mark_isPrefix order), text_utf16 h,
        faultAt?, Option.map_eq_none_iff]
      simp only [← Utf16.read_eq_none_iff]
      exact unmarked_read_iff
  | codePage page =>
      rw [Decoder.run, run_byteMachine h]
      simp [Decodes, faultAt?, CodePage.decode]
  | privateBytes =>
      rw [Decoder.run, run_byteMachine h]
      simp [Decodes, faultAt?]
  | refuse =>
      rw [run_refuse h]
      by_cases hempty : pieces.flatten = [] <;> simp only [Decodes, faultAt?, hempty] <;>
        simp [eq_comm]

theorem run_pieces_iff : decoder.run (Transcoding.pieces content) = ⟨text, none⟩ ↔
    decoder.Decodes content text := by
  have hsplits := splits_pieces content
  rw [run_eq_iff hsplits.bounded, hsplits.flatten]

theorem failedAt_of_not_decodes (h : ∀ piece ∈ pieces, piece.length ≤ pieceSize)
    (hnone : ¬ ∃ text, decoder.Decodes pieces.flatten text) :
    ∃ position, (decoder.run pieces).failedAt = some position := by
  rw [← Option.ne_none_iff_exists']
  intro hfault
  refine hnone ⟨(decoder.run pieces).text, (run_eq_iff h).mp ?_⟩
  rw [← hfault]

end Decoder

end TidyCsv.Transcoding
