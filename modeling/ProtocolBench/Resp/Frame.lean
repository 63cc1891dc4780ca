import ProtocolBench.Resp.Decimal
import ProtocolBench.Resp.Parse

/-!
Well-formed RESP input and what each part of `parseMultibulk` does with it. A multibulk frame is
`*<n>\r\n` and then, per argument, `$<len>\r\n<bytes>\r\n`. The lemmas follow the parser's own
cut: the count line, the length line of an argument, the growth of `argv`, the store (copied, or
the whole buffer captured), and one turn of the loop. Each says where the cursor goes through
`Consumes`, which also covers the prefix that `sdsrange` and the capture drop from the buffer.
-/

namespace ProtocolBench.Resp
open RespM

/-- `<tag><n>\r\n`: the count line `*<n>` of a frame, or the length line `$<len>` of an argument. -/
def lengthLine (tag : UInt8) (n : Nat) : List UInt8 := tag :: (decimal n ++ [13, 10])

/-- `$<len>\r\n<bytes>\r\n`: one bulk argument. -/
def bulk (a : List UInt8) : List UInt8 := lengthLine 36 a.length ++ (a ++ [13, 10])

/-- `*<n>\r\n` followed by the `n` bulk arguments: a RESP multibulk frame. -/
def multibulk (args : List (List UInt8)) : List UInt8 :=
  lengthLine 42 args.length ++ args.flatMap bulk

/-- `<tag><n>\r` and one more byte: a count or length line as `parseMultibulk` reads it. The C
skips the byte after the `'\r'` as the `'\n'` without looking at it. -/
def looseLine (tag : UInt8) (n : Nat) (x : UInt8) : List UInt8 := tag :: (decimal n ++ [13, x])

@[simp] theorem looseLine_length (tag : UInt8) (n : Nat) (x : UInt8) :
    (looseLine tag n x).length = (decimal n).length + 3 := by
  simp [looseLine]

/-- A well-formed line is the loose line whose skipped byte is the `'\n'`. -/
theorem lengthLine_eq_looseLine (tag : UInt8) (n : Nat) : lengthLine tag n = looseLine tag n 10 :=
  rfl

@[simp] theorem lengthLine_length (tag : UInt8) (n : Nat) :
    (lengthLine tag n).length = (decimal n).length + 3 := by
  simp [lengthLine]

@[simp] theorem bulk_length (a : List UInt8) :
    (bulk a).length = (decimal a.length).length + 3 + (a.length + 2) := by
  simp [bulk]

/-- A length line followed by more bytes, with its digits kept apart. -/
theorem lengthLine_append (tag : UInt8) (n : Nat) (X : List UInt8) :
    lengthLine tag n ++ X = tag :: decimal n ++ 13 :: 10 :: X := by
  simp [lengthLine]

theorem bulk_ne_nil (a : List UInt8) : bulk a ≠ [] := by
  simp [bulk, lengthLine]

namespace ValkeyClient

/-- `querybuf[qb_pos ..]`: the bytes not consumed yet. -/
def rest (c : ValkeyClient) : List UInt8 := c.querybuf.drop c.qbPos

theorem unread_eq_length_rest (c : ValkeyClient) : c.unread = c.rest.length := by
  simp [unread, rest]

end ValkeyClient

/-- From `c` to `c'` the parser consumed `k` bytes: the buffer of `c'` is that of `c` less a
prefix `P` (dropped by `sdsrange` or by the capture), and the cursor moved `k` bytes on,
counting `P`. -/
structure Consumes (c c' : ValkeyClient) (k : Nat) : Prop where
  dropped : ∃ P, c.querybuf = P ++ c'.querybuf ∧ c'.qbPos + P.length = c.qbPos + k
  qbPos_le : c'.qbPos ≤ c'.querybuf.length

section Consumes

variable {c c' c'' : ValkeyClient} {k k' : Nat}

theorem Consumes.trans (h₁ : Consumes c c' k) (h₂ : Consumes c' c'' k') : Consumes c c'' (k + k') := by
  obtain ⟨P₁, e₁, h₁⟩ := h₁.dropped
  obtain ⟨P₂, e₂, h₂'⟩ := h₂.dropped
  exact ⟨⟨P₁ ++ P₂, by rw [e₁, e₂, List.append_assoc], by simp only [List.length_append]; omega⟩,
    h₂.qbPos_le⟩

theorem Consumes.rest_eq (h : Consumes c c' k) : c'.rest = c.rest.drop k := by
  obtain ⟨P, e, hk⟩ := h.dropped
  rw [ValkeyClient.rest, ValkeyClient.rest, List.drop_drop, ← hk, e, Nat.add_comm,
    List.drop_append]

/-- When the buffer is kept, the cursor moved on by exactly the bytes consumed. -/
theorem Consumes.qbPos_of_kept (h : Consumes c c' k) (hq : c'.querybuf = c.querybuf) :
    c'.qbPos = c.qbPos + k := by
  obtain ⟨P, e, hk⟩ := h.dropped
  have := congrArg List.length e
  rw [hq, List.length_append] at this
  omega

/-- The cursor moves on `k` bytes in the same buffer. -/
theorem consumes_advance (hq : c'.querybuf = c.querybuf) (hp : c'.qbPos = c.qbPos + k)
    (h : c.qbPos + k ≤ c.querybuf.length) : Consumes c c' k :=
  ⟨⟨[], by rw [hq]; rfl, by rw [hp]; rfl⟩, by rw [hq, hp]; exact h⟩

end Consumes

section Scan

variable {c : ValkeyClient}

/-- `memchr` finds the first `'\r'` of the unread input. -/
theorem findCR_of_rest {pre R : List UInt8} (hpre : (13 : UInt8) ∉ pre)
    (h : c.rest = pre ++ 13 :: R) : findCR c.querybuf c.qbPos = some (c.qbPos + pre.length) := by
  have hnone : pre.findIdx? (fun b => decide (b = 13)) = none :=
    List.findIdx?_eq_none_iff.2 fun b hb => by
      simpa using (show b ≠ 13 from fun e => hpre (e ▸ hb))
  rw [findCR, ← ValkeyClient.rest, h, List.findIdx?_append, hnone]
  simp
  omega

/-- A `'\r'` with a byte after it ends a complete line. -/
theorem not_lineIncomplete {pre R : List UInt8} {x : UInt8} (h : c.rest = pre ++ 13 :: x :: R) :
    ¬ c.lineIncomplete (c.qbPos + pre.length) := by
  have hlen := congrArg List.length h
  simp only [ValkeyClient.rest, List.length_drop, List.length_append, List.length_cons] at hlen
  simp only [ValkeyClient.lineIncomplete, ValkeyClient.unread]
  omega

theorem byteAt_of_rest {b : UInt8} {R : List UInt8} (h : c.rest = b :: R) :
    byteAt c.querybuf c.qbPos = b := by
  have := congrArg (·[0]?) h
  simp only [ValkeyClient.rest, List.getElem?_drop, Nat.add_zero] at this
  simp [byteAt, this]

/-- The scan of a count or length line at the cursor: `memchr` finds its `'\r'`, a byte follows
it, and the digits between the tag and the `'\r'` are the decimal of `n`. -/
theorem scan_looseLine {tag x : UInt8} {n : Nat} {R : List UInt8} (htag : tag ≠ 13)
    (h : c.rest = looseLine tag n x ++ R) :
    findCR c.querybuf c.qbPos = some (c.qbPos + 1 + (decimal n).length) ∧
    ¬ c.lineIncomplete (c.qbPos + 1 + (decimal n).length) ∧
    byteAt c.querybuf c.qbPos = tag ∧
    slice c.querybuf (c.qbPos + 1) (decimal n).length = decimal n := by
  have hr : c.rest = (tag :: decimal n) ++ 13 :: x :: R := h.trans (by simp [looseLine])
  have hpre : (13 : UInt8) ∉ tag :: decimal n := by
    simpa [eq_comm] using ⟨htag, cr_not_mem_decimal n⟩
  have hlen : c.qbPos + (tag :: decimal n).length = c.qbPos + 1 + (decimal n).length := by
    simp only [List.length_cons]; omega
  refine ⟨hlen ▸ findCR_of_rest hpre hr, hlen ▸ not_lineIncomplete hr, byteAt_of_rest hr, ?_⟩
  rw [slice, ← List.drop_drop, ← ValkeyClient.rest, hr]
  simp

end Scan

section Steps

variable {c : ValkeyClient}

/-- The count line of a frame, read when no command is in progress: `argv` is set up for
`min(n, 1024)` arguments and `n` are to come. -/
theorem readMultibulkLen_looseLine {n : Nat} {x : UInt8} {R : List UInt8} (hargc : c.argc = 0)
    (hrest : c.rest = looseLine 42 n x ++ R) (hn : 0 < n) (hmax : (n : Int) ≤ intMax)
    (hauth : c.authRequired = false) :
    readMultibulkLen c = .ok .cont
      { c with
        qbPos := c.qbPos + (looseLine 42 n x).length
        multibulklen := n
        bulklen := -1
        argv := fun _ => []
        argvLen := min (n : Int) 1024
        argvLenSum := 0
        netInputBytesCurrCmd := c.netInputBytesCurrCmd + (looseLine 42 n x).length
        declared := n } := by
  obtain ⟨hcr, hinc, hbyte, hsl⟩ := scan_looseLine (by decide) hrest
  unfold intMax at hmax
  have hslen : c.qbPos + 1 + (decimal n).length - (1 + c.qbPos) = (decimal n).length := by omega
  rw [readMultibulkLen, if_neg (by simp [hargc]), hcr]
  dsimp only
  rw [if_neg hinc, if_neg (by simp [hbyte]), hslen, Nat.add_comm 1, hsl, string2ll_decimal (by omega)]
  dsimp only
  rw [if_neg (by unfold intMax; omega), if_neg (by simp [hauth]), if_neg (by omega)]
  rw [looseLine_length, show c.qbPos + 1 + (decimal n).length + 2 = c.qbPos + ((decimal n).length + 3) by omega]

theorem readMultibulkLen_line {n : Nat} {R : List UInt8} (hargc : c.argc = 0)
    (hrest : c.rest = lengthLine 42 n ++ R) (hn : 0 < n) (hmax : (n : Int) ≤ intMax)
    (hauth : c.authRequired = false) :
    readMultibulkLen c = .ok .cont
      { c with
        qbPos := c.qbPos + (lengthLine 42 n).length
        multibulklen := n
        bulklen := -1
        argv := fun _ => []
        argvLen := min (n : Int) 1024
        argvLenSum := 0
        netInputBytesCurrCmd := c.netInputBytesCurrCmd + (lengthLine 42 n).length
        declared := n } :=
  readMultibulkLen_looseLine hargc hrest hn hmax hauth

/-- The length line of an argument. For a big argument followed by no more than its bytes and
CRLF, `sdsrange` drops the consumed bytes and the cursor goes back to 0. -/
theorem readBulkLen_looseLine {L : Nat} {x : UInt8} {X : List UInt8}
    (hrest : c.rest = looseLine 36 L x ++ X) (hL : L ≤ 512 * 1024 * 1024)
    (hrep : c.isReplicated = false) (hauth : c.authRequired = false) :
    readBulkLen c = .ok .cont
      (if protoMbulkBigArg ≤ L ∧ X.length ≤ L + 2 then
        { c with
          querybuf := X
          qbPos := 0
          querybufPeak := if c.querybufPeak < L + 2 then L + 2 else c.querybufPeak
          bulklen := L
          netInputBytesCurrCmd := c.netInputBytesCurrCmd + (looseLine 36 L x).length }
      else
        { c with
          qbPos := c.qbPos + (looseLine 36 L x).length
          bulklen := L
          netInputBytesCurrCmd := c.netInputBytesCurrCmd + (looseLine 36 L x).length }) := by
  obtain ⟨hcr, hinc, hbyte, hsl⟩ := scan_looseLine (by decide) hrest
  have hpos : c.qbPos + 1 + (decimal L).length + 2 = c.qbPos + (looseLine 36 L x).length := by
    simp only [looseLine_length]; omega
  have hX : c.querybuf.drop (c.qbPos + (looseLine 36 L x).length) = X := by
    rw [← List.drop_drop, ← ValkeyClient.rest, hrest, List.drop_left]
  have hslen : c.qbPos + 1 + (decimal L).length - (c.qbPos + 1) = (decimal L).length := by omega
  rw [readBulkLen, hcr]
  dsimp only
  rw [if_neg hinc, if_neg (by simp [hbyte]), hslen, hsl, string2ll_decimal (by omega)]
  dsimp only
  rw [if_neg (by simp [hrep]; omega), if_neg (by simp [hauth])]
  simp only [hpos, ValkeyClient.unread, hrep, hX, Bool.not_false, true_and, Int.toNat_ofNat,
    Nat.cast_le, ← List.length_drop]
  by_cases hbig : protoMbulkBigArg ≤ L ∧ X.length ≤ L + 2
  · rw [if_pos hbig, if_pos hbig, looseLine_length]
  · rw [if_neg hbig, if_neg hbig, looseLine_length]

theorem readBulkLen_line {L : Nat} {X : List UInt8} (hrest : c.rest = lengthLine 36 L ++ X)
    (hL : L ≤ 512 * 1024 * 1024) (hrep : c.isReplicated = false) (hauth : c.authRequired = false) :
    readBulkLen c = .ok .cont
      (if protoMbulkBigArg ≤ L ∧ X.length ≤ L + 2 then
        { c with
          querybuf := X
          qbPos := 0
          querybufPeak := if c.querybufPeak < L + 2 then L + 2 else c.querybufPeak
          bulklen := L
          netInputBytesCurrCmd := c.netInputBytesCurrCmd + (lengthLine 36 L).length }
      else
        { c with
          qbPos := c.qbPos + (lengthLine 36 L).length
          bulklen := L
          netInputBytesCurrCmd := c.netInputBytesCurrCmd + (lengthLine 36 L).length }) :=
  readBulkLen_looseLine hrest hL hrep hauth
/-- The growth of `argv` before a store: room for the store, within `INT_MAX`, and no
overflow of `argc + multibulklen`. -/
theorem growArgv_spec (h0 : 0 ≤ c.argc) (hm : 0 < c.multibulklen)
    (hsum : c.argc + c.multibulklen ≤ intMax) (hlen : c.argvLen ≤ intMax) :
    ∃ len, growArgv c = .ok () { c with argvLen := len } ∧ c.argc < len ∧ len ≤ intMax := by
  unfold growArgv
  split_ifs with hge
  · rw [intAdd, if_neg (by omega)]
    refine ⟨_, rfl, ?_, ?_⟩ <;> dsimp only <;> unfold intMax at * <;> split_ifs <;> omega
  · exact ⟨c.argvLen, rfl, by omega, hlen⟩

theorem takeBulk_spec (h0 : 0 ≤ c.argc) (hlt : c.argc < c.argvLen) :
    takeBulk c = .ok ()
      (if c.capturesBuffer then
        { c with
          querybuf := []
          argv := Function.update c.argv c.argc.toNat (slice c.querybuf c.qbPos c.bulklen.toNat)
          argc := c.argc + 1
          argvLenSum := c.argvLenSum + c.bulklen.toNat }
      else
        { c with
          qbPos := c.qbPos + (c.bulklen.toNat + 2)
          argv := Function.update c.argv c.argc.toNat (slice c.querybuf c.qbPos c.bulklen.toNat)
          argc := c.argc + 1
          argvLenSum := c.argvLenSum + c.bulklen.toNat }) := by
  unfold takeBulk
  have hst : ∀ obj, storeArg obj c = .ok ()
      { c with argv := Function.update c.argv c.argc.toNat obj, argc := c.argc + 1 } :=
    fun obj => if_pos ⟨hlt, h0⟩
  by_cases hcap : c.capturesBuffer
  · rw [if_pos hcap, if_pos hcap, hst, slice, hcap.2.1, List.drop_zero]
  · rw [if_neg hcap, if_neg hcap, hst]
/-- What a turn that stores the argument `a` leaves: `a` in `argv[argc]`, counted in `argc` and
`argv_len_sum`, room for it in `argv_len`, one argument fewer to go and no length known. -/
structure Stored (c c' : ValkeyClient) (a : List UInt8) : Prop where
  argv : c'.argv = Function.update c.argv c.argc.toNat a
  argc : c'.argc = c.argc + 1
  argc_lt : c.argc < c'.argvLen
  argvLen_le : c'.argvLen ≤ intMax
  argvLenSum : c'.argvLenSum = c.argvLenSum + a.length
  multibulklen : c'.multibulklen = c.multibulklen - 1
  bulklen : c'.bulklen = -1
  readFlags : c'.readFlags = c.readFlags
  reqtype : c'.reqtype = c.reqtype
  declared : c'.declared = c.declared

/-- The argument, once its bytes and CRLF are in: stored, and the cursor past it (or the buffer
captured). -/
theorem readBulkArg_spec (h0 : 0 ≤ c.argc) (hm : 0 < c.multibulklen)
    (hsum : c.argc + c.multibulklen ≤ intMax) (hlen : c.argvLen ≤ intMax) (hb : 0 ≤ c.bulklen)
    (hroom : c.bulklen.toNat + 2 ≤ c.unread) :
    ∃ c', readBulkArg c = .ok .cont c' ∧ Stored c c' (slice c.querybuf c.qbPos c.bulklen.toNat) ∧
      Consumes c c' (c.bulklen.toNat + 2) ∧ c'.netInputBytesCurrCmd = c.netInputBytesCurrCmd ∧
      c'.querybufPeak = c.querybufPeak ∧ c'.querybuf = if c.capturesBuffer then [] else c.querybuf := by
  obtain ⟨len, hg, hlt, hle⟩ := growArgv_spec h0 hm hsum hlen
  have hslice : (slice c.querybuf c.qbPos c.bulklen.toNat).length = c.bulklen.toNat := by
    simp only [slice, List.length_take, List.length_drop]
    simp only [ValkeyClient.unread] at hroom
    omega
  rw [readBulkArg, if_neg (by omega), bind_of_ok hg, takeBulk_spec (c := { c with argvLen := len }) h0 hlt]
  by_cases hcap : c.capturesBuffer
  · rw [if_pos (show ({ c with argvLen := len } : ValkeyClient).capturesBuffer from hcap), if_pos hcap]
    refine ⟨_, rfl, ⟨rfl, rfl, hlt, hle, by rw [hslice], rfl, rfl, rfl, rfl, rfl⟩,
      ⟨⟨c.querybuf, by simp, ?_⟩, by simp [hcap.2.1]⟩, rfl, rfl, rfl⟩
    simp only [hcap.2.1, hcap.2.2.2]
    omega
  · rw [if_neg (show ¬ ({ c with argvLen := len } : ValkeyClient).capturesBuffer from hcap), if_neg hcap]
    refine ⟨_, rfl, ⟨rfl, rfl, hlt, hle, by rw [hslice], rfl, rfl, rfl, rfl, rfl⟩,
      consumes_advance rfl rfl (by simp only [ValkeyClient.unread] at hroom; omega), rfl, rfl, rfl⟩

/-- `Stored` reads of the state before a turn only what the length line leaves alone. -/
theorem Stored.of_lengthLine {c' : ValkeyClient} {a q : List UInt8} {p k n : Nat} {L : Int}
    (h : Stored
      { c with
        querybuf := q
        qbPos := p
        querybufPeak := k
        bulklen := L
        netInputBytesCurrCmd := n } c' a) : Stored c c' a :=
  ⟨h.argv, h.argc, h.argc_lt, h.argvLen_le, h.argvLenSum, h.multibulklen, h.bulklen, h.readFlags,
    h.reqtype, h.declared⟩

/-- A turn that stores `a`, then a run that stores `as` after it: from `argc` on, `argv` holds
`a :: as`, and what was stored before is left alone. -/
theorem Stored.argv_cons {c₁ c' : ValkeyClient} {a : List UInt8} {as : List (List UInt8)}
    (h0 : 0 ≤ c.argc) (hst : Stored c c₁ a)
    (hnew : ∀ i (hi : i < as.length), c'.argv (c₁.argc.toNat + i) = as[i])
    (hold : ∀ j < c₁.argc.toNat, c'.argv j = c₁.argv j) :
    (∀ i (hi : i < (a :: as).length), c'.argv (c.argc.toNat + i) = (a :: as)[i]) ∧
      ∀ j < c.argc.toNat, c'.argv j = c.argv j := by
  have htn : c₁.argc.toNat = c.argc.toNat + 1 := by rw [hst.argc]; omega
  refine ⟨fun i hi => ?_, fun j hj => ?_⟩
  · cases i with
    | zero => rw [Nat.add_zero, hold _ (by omega), hst.argv, Function.update_same]; rfl
    | succ k =>
      rw [← Nat.add_assoc, Nat.add_right_comm, ← htn]
      exact hnew k (by simpa using hi)
  · rw [hold j (by omega), hst.argv, Function.update_noteq (by omega)]

/-- One turn of the loop on an argument: its length line, then its bytes and two bytes more. The buffer is
kept, except when the argument is big and the input ends with its CRLF: then it is captured. -/
theorem bulkTurn_looseLine {L : Nat} {x : UInt8} {X : List UInt8} (hb : c.bulklen = -1) (h0 : 0 ≤ c.argc)
    (hm : 0 < c.multibulklen) (hsum : c.argc + c.multibulklen ≤ intMax) (hlen : c.argvLen ≤ intMax)
    (hrest : c.rest = looseLine 36 L x ++ X) (hX : L + 2 ≤ X.length) (hL : L ≤ 512 * 1024 * 1024)
    (hrep : c.isReplicated = false) (hauth : c.authRequired = false) :
    ∃ c', bulkTurn c = .ok .cont c' ∧ Stored c c' (X.take L) ∧
      Consumes c c' ((looseLine 36 L x).length + (L + 2)) ∧
      c'.netInputBytesCurrCmd = c.netInputBytesCurrCmd + (looseLine 36 L x).length ∧
      c'.querybuf = (if protoMbulkBigArg ≤ L ∧ X.length = L + 2 then [] else c.querybuf) ∧
      c'.querybufPeak =
        if protoMbulkBigArg ≤ L ∧ X.length = L + 2 then max c.querybufPeak (L + 2) else c.querybufPeak := by
  have hdrop : c.querybuf.drop (c.qbPos + (looseLine 36 L x).length) = X := by
    rw [← List.drop_drop, ← ValkeyClient.rest, hrest, List.drop_left]
  have hfits : c.qbPos + (looseLine 36 L x).length + X.length = c.querybuf.length := by
    have := congrArg List.length hdrop
    simp only [List.length_drop] at this
    have := congrArg List.length hrest
    simp only [ValkeyClient.rest, List.length_drop, List.length_append] at this
    omega
  rw [bulkTurn, if_pos hb, readBulkLen_looseLine hrest hL hrep hauth]
  dsimp only
  by_cases hbig : protoMbulkBigArg ≤ L ∧ X.length ≤ L + 2
  · rw [if_pos hbig]
    set c₁ : ValkeyClient :=
      { c with
        querybuf := X
        qbPos := 0
        querybufPeak := if c.querybufPeak < L + 2 then L + 2 else c.querybufPeak
        bulklen := L
        netInputBytesCurrCmd := c.netInputBytesCurrCmd + (looseLine 36 L x).length }
    obtain ⟨c', hrun, hst, hcons, hnet, hpeak, hq⟩ :=
      @readBulkArg_spec c₁ h0 hm hsum hlen (by simp [c₁]) (by simp [c₁, ValkeyClient.unread]; omega)
    have hcap : c₁.capturesBuffer :=
      ⟨hrep, rfl, show (protoMbulkBigArg : Int) ≤ (L : Int) by exact_mod_cast hbig.1, by simp [c₁]; omega⟩
    have hcond : protoMbulkBigArg ≤ L ∧ X.length = L + 2 := ⟨hbig.1, by omega⟩
    have hk : c₁.bulklen.toNat = L := by simp [c₁]
    rw [hk, show slice c₁.querybuf c₁.qbPos L = X.take L by simp [c₁, slice]] at hst
    rw [hk] at hcons
    refine ⟨c', hrun, hst.of_lengthLine,
      Consumes.trans ⟨⟨c.querybuf.take (c.qbPos + (looseLine 36 L x).length), ?_, ?_⟩, Nat.zero_le _⟩ hcons,
      hnet, by rw [hq, if_pos hcap, if_pos hcond], by rw [hpeak, if_pos hcond]; simp only [c₁, max_def]; split_ifs <;> omega⟩
    · conv_lhs => rw [← List.take_append_drop (c.qbPos + (looseLine 36 L x).length) c.querybuf]
      rw [hdrop]
    · simp only [List.length_take, c₁]; omega
  · rw [if_neg hbig]
    set c₁ : ValkeyClient :=
      { c with
        qbPos := c.qbPos + (looseLine 36 L x).length
        bulklen := L
        netInputBytesCurrCmd := c.netInputBytesCurrCmd + (looseLine 36 L x).length }
    obtain ⟨c', hrun, hst, hcons, hnet, hpeak, hq⟩ :=
      @readBulkArg_spec c₁ h0 hm hsum hlen (by simp [c₁])
        (by simp only [c₁, ValkeyClient.unread, Int.toNat_ofNat]; omega)
    have hcap : ¬ c₁.capturesBuffer := fun h => absurd h.2.1 (by simp [c₁])
    have hcond : ¬ (protoMbulkBigArg ≤ L ∧ X.length = L + 2) := fun h => hbig ⟨h.1, by omega⟩
    have hk : c₁.bulklen.toNat = L := by simp [c₁]
    rw [hk, show slice c₁.querybuf c₁.qbPos L = X.take L by simp only [c₁, slice, hdrop]] at hst
    rw [hk] at hcons
    refine ⟨c', hrun, hst.of_lengthLine, (@consumes_advance c c₁ _ rfl rfl (by omega)).trans hcons, hnet,
      by rw [hq, if_neg hcap, if_neg hcond], by rw [hpeak, if_neg hcond]⟩

theorem bulkTurn_line {L : Nat} {X : List UInt8} (hb : c.bulklen = -1) (h0 : 0 ≤ c.argc)
    (hm : 0 < c.multibulklen) (hsum : c.argc + c.multibulklen ≤ intMax) (hlen : c.argvLen ≤ intMax)
    (hrest : c.rest = lengthLine 36 L ++ X) (hX : L + 2 ≤ X.length) (hL : L ≤ 512 * 1024 * 1024)
    (hrep : c.isReplicated = false) (hauth : c.authRequired = false) :
    ∃ c', bulkTurn c = .ok .cont c' ∧ Stored c c' (X.take L) ∧
      Consumes c c' ((lengthLine 36 L).length + (L + 2)) ∧
      c'.netInputBytesCurrCmd = c.netInputBytesCurrCmd + (lengthLine 36 L).length ∧
      c'.querybuf = (if protoMbulkBigArg ≤ L ∧ X.length = L + 2 then [] else c.querybuf) ∧
      c'.querybufPeak =
        if protoMbulkBigArg ≤ L ∧ X.length = L + 2 then max c.querybufPeak (L + 2) else c.querybufPeak :=
  bulkTurn_looseLine hb h0 hm hsum hlen hrest hX hL hrep hauth

/-- A length line that does not start with `'$'`: the loop reports an unexpected character. -/
theorem readBulkLen_unexpected {b x : UInt8} {pre R : List UInt8} (hb : b ≠ 36)
    (hpre : (13 : UInt8) ∉ b :: pre) (h : c.rest = b :: (pre ++ 13 :: x :: R)) :
    readBulkLen c = .ok (.ret readFlagsErrorMbulkUnexpectedCharacter) c := by
  have h' : c.rest = b :: pre ++ 13 :: x :: R := h
  rw [readBulkLen, findCR_of_rest hpre h']
  dsimp only
  rw [if_neg (not_lineIncomplete h'), if_pos (by rw [byteAt_of_rest h]; exact hb)]

/-- The completion when every argument is in and `argc * 2` fits an `int`. -/
theorem finishMultibulk_of_fits (hm : c.multibulklen = 0) (h0 : 0 ≤ c.argc)
    (hfit : c.argc * 2 ≤ intMax) :
    finishMultibulk c = .ok readFlagsParsingCompleted
      { c with
        netInputBytesCurrCmd := c.netInputBytesCurrCmd + (c.argvLenSum + (c.argc * 2).toNat)
        reqtype := 0 } := by
  rw [finishMultibulk, if_pos hm, intMul, if_neg (by unfold intMax at *; omega)]

/-- The completion when `argc * 2` does not fit an `int`: undefined behaviour. -/
theorem finishMultibulk_of_overflow (hm : c.multibulklen = 0) (hover : intMax < c.argc * 2) :
    finishMultibulk c = .error .signedOverflow c := by
  rw [finishMultibulk, if_pos hm, intMul, if_pos (Or.inl hover)]

/-- The report of a completed command: the call returns 1. -/
theorem reportFlag_completed :
    reportFlag readFlagsParsingCompleted c =
      .ok 1 { c with readFlags := c.readFlags ||| readFlagsParsingCompleted } := by
  rw [reportFlag]
  exact if_pos (by decide)

end Steps

end ProtocolBench.Resp
