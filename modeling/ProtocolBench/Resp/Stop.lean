import ProtocolBench.Resp.Invariant
import ProtocolBench.Resp.Numeral
import ProtocolBench.Resp.Synthetic

/-!
Workload tails at which the replay stops early. `valkey_parse_command` returns 0 in two cases
that the benchmark's inner loop takes for "need more input" and breaks on, leaving what follows
unread and uncounted:
* a frame cut short: the count line or a length line without its `'\n'`, or an argument without
  its bytes and CRLF (the cut command's arguments are taken below `PROTO_MBULK_BIG_ARG`, where
  `sdsrange` leaves the buffer alone);
* a count line of a value `<= 0`, such as `*0` or the null array `*-1`: the parser skips the line
  and reports `READ_FLAGS_PARSING_NEGATIVE_MBULK_LEN`, which is neither completion nor an error.

A frame cut after its count line leaves a command in progress. The last section states the
parser's invariant over every reachable state, and applies it where such a cut frame, with the
rest of its bytes appended, leaves the client.
-/

namespace ProtocolBench.Resp
open RespM

/-- A part of the parse that stops for more input: it breaks out of the loop or returns 0, with
the buffer, `querybuf_peak` and the request type kept. -/
structure Waits (c c' : ValkeyClient) (t : Turn) : Prop where
  turn : t = .brk ∨ t = .ret 0
  querybuf : c'.querybuf = c.querybuf
  querybufPeak : c'.querybufPeak = c.querybufPeak
  reqtype : c'.reqtype = c.reqtype

section Partial

variable {c : ValkeyClient}

/-- `memchr` finds no `'\r'` in unread input that has none. -/
theorem findCR_eq_none (h : (13 : UInt8) ∉ c.rest) : findCR c.querybuf c.qbPos = none := by
  rw [findCR, ← ValkeyClient.rest, Option.map_eq_none', List.findIdx?_eq_none_iff]
  intro b hb
  simpa using (show b ≠ 13 from fun e => h (e ▸ hb))

/-- The scan of a count or length line cut short: `memchr` finds no `'\r'` in the few bytes that
arrived, or finds the last byte and the `'\n'` has not arrived. -/
theorem scan_partialLine {tag : UInt8} {n k : Nat} (htag : tag ≠ 13) (hn : n < 10 ^ 10)
    (hk : k < (lengthLine tag n).length) (hrest : c.rest = (lengthLine tag n).take k) :
    (findCR c.querybuf c.qbPos = none ∧ c.unread ≤ protoInlineMaxSize) ∨
      ∃ nl, findCR c.querybuf c.qbPos = some nl ∧ c.lineIncomplete nl := by
  have hpre : (13 : UInt8) ∉ tag :: decimal n := by
    simpa [eq_comm] using ⟨htag, cr_not_mem_decimal n⟩
  have hline : lengthLine tag n = (tag :: decimal n) ++ [13, 10] := by simp [lengthLine]
  rw [lengthLine_length] at hk
  rcases Nat.lt_or_ge k ((decimal n).length + 2) with hkd | hkd
  · rw [hline, List.take_append_of_le_length (by simp only [List.length_cons]; omega)] at hrest
    have hdigits := decimal_length_le (by decide) hn
    refine .inl ⟨findCR_eq_none (hrest ▸ fun h => hpre (List.mem_of_mem_take h)), ?_⟩
    rw [ValkeyClient.unread_eq_length_rest, hrest, List.length_take]
    unfold protoInlineMaxSize
    omega
  · have hr : c.rest = (tag :: decimal n) ++ 13 :: [] := by
      rw [hrest, show k = (tag :: decimal n).length + 1 by simp only [List.length_cons]; omega,
        hline, List.take_append_eq_append_take, List.take_of_length_le (Nat.le_succ _),
        Nat.add_sub_cancel_left]
      rfl
    refine .inr ⟨_, findCR_of_rest hpre hr, ?_⟩
    have hlen := congrArg List.length hr
    simp only [ValkeyClient.rest, List.length_drop, List.length_append, List.length_cons,
      List.length_nil] at hlen
    simp only [ValkeyClient.lineIncomplete, ValkeyClient.unread, List.length_cons]
    omega

/-- The count line of a frame cut short: the call returns 0 and waits. -/
theorem readMultibulkLen_partial {n k : Nat} (hargc : c.argc = 0) (hn : n < 10 ^ 10)
    (hk : k < (lengthLine 42 n).length) (hrest : c.rest = (lengthLine 42 n).take k) :
    readMultibulkLen c = .ok (.ret 0) c := by
  rw [readMultibulkLen, if_neg (by simp [hargc])]
  rcases scan_partialLine (by decide) hn hk hrest with ⟨hcr, hsmall⟩ | ⟨nl, hcr, hinc⟩
  · rw [hcr]
    dsimp only
    rw [if_neg (by omega)]
  · rw [hcr]
    exact if_pos hinc

/-- The length line of an argument cut short: the loop breaks, or the call returns 0. -/
theorem readBulkLen_partial {L k : Nat} (hL : L < 10 ^ 10) (hk : k < (lengthLine 36 L).length)
    (hrest : c.rest = (lengthLine 36 L).take k) :
    readBulkLen c = .ok .brk c ∨ readBulkLen c = .ok (.ret 0) c := by
  rw [readBulkLen]
  rcases scan_partialLine (by decide) hL hk hrest with ⟨hcr, hsmall⟩ | ⟨nl, hcr, hinc⟩
  · rw [hcr]
    exact .inl (by rw [if_neg (by omega)])
  · rw [hcr]
    exact .inr (if_pos hinc)

/-- A turn on a small argument cut short: the turn stops where the input ends, with nothing
stored and the buffer kept. -/
theorem bulkTurn_partial {a : List UInt8} {j : Nat} (hb : c.bulklen = -1)
    (ha : a.length < protoMbulkBigArg) (hj : j < (bulk a).length) (hrest : c.rest = (bulk a).take j)
    (hrep : c.isReplicated = false) (hauth : c.authRequired = false) :
    ∃ t c', bulkTurn c = .ok t c' ∧ Waits c c' t ∧ c'.multibulklen = c.multibulklen := by
  have hL : a.length ≤ 512 * 1024 * 1024 := by unfold protoMbulkBigArg at ha; omega
  rcases Nat.lt_or_ge j (lengthLine 36 a.length).length with hjl | hjl
  · -- the length line is cut
    rw [bulk, List.take_append_of_le_length hjl.le] at hrest
    rcases readBulkLen_partial (by omega) hjl hrest with h | h
    · exact ⟨_, c, by rw [bulkTurn, if_pos hb, h], ⟨.inl rfl, rfl, rfl, rfl⟩, rfl⟩
    · exact ⟨_, c, by rw [bulkTurn, if_pos hb, h], ⟨.inr rfl, rfl, rfl, rfl⟩, rfl⟩
  · -- the length line is in, the bytes and CRLF are not all there
    have hrest' : c.rest = lengthLine 36 a.length ++
        (a ++ [13, 10]).take (j - (lengthLine 36 a.length).length) := by
      rw [hrest, bulk, List.take_append_eq_append_take, List.take_of_length_le hjl]
    have hlen := congrArg List.length hrest'
    simp only [ValkeyClient.rest, List.length_drop, List.length_append, List.length_take,
      lengthLine_length] at hlen
    simp only [bulk_length] at hj
    rw [bulkTurn, if_pos hb, readBulkLen_line hrest' hL hrep hauth,
      if_neg fun h => absurd h.1 (Nat.not_le.2 ha)]
    dsimp only
    rw [readBulkArg, if_pos (by simp only [ValkeyClient.unread, lengthLine_length]; omega)]
    exact ⟨_, _, rfl, ⟨.inl rfl, rfl, rfl, rfl⟩, rfl⟩

end Partial

section Loop

/-- The loop `while (c->multibulklen)` on the first `j` bytes of the bulks of `args`: the
arguments that arrived whole are stored, and the turn on the first cut one stops the loop with
a command still in progress. -/
theorem bulkLoop_truncated (args : List (List UInt8)) (c : ValkeyClient) {j : Nat}
    (hb : c.bulklen = -1) (h0 : 0 ≤ c.argc) (hm : c.multibulklen = args.length)
    (hsum : c.argc + args.length ≤ intMax) (hlen : c.argvLen ≤ intMax)
    (hj : j < (args.flatMap bulk).length) (hrest : c.rest = (args.flatMap bulk).take j)
    (hargs : ∀ a ∈ args, a.length < protoMbulkBigArg) (hrep : c.isReplicated = false)
    (hauth : c.authRequired = false) :
    ∃ t c', bulkLoop args.length c = .ok t c' ∧ Waits c c' t ∧ c'.multibulklen ≠ 0 := by
  induction args generalizing c j with
  | nil => simp at hj
  | cons a as ih =>
    have ha := hargs a (List.mem_cons_self _ _)
    rw [List.flatMap_cons] at hj hrest
    rw [List.length_append] at hj
    have hturn : ∀ t c', bulkTurn c = .ok t c' → t ≠ .cont →
        bulkLoop (a :: as).length c = .ok t c' := by
      intro t c' h ht
      simp only [List.length_cons, bulkLoop]
      rw [if_neg (by rw [hm]; simp only [List.length_cons]; omega), h]
      cases t with
      | cont => exact absurd rfl ht
      | brk | ret => rfl
    rcases Nat.lt_or_ge j (bulk a).length with hja | hja
    · -- the cut falls in `a`
      rw [List.take_append_of_le_length hja.le] at hrest
      obtain ⟨t, c', h, hw, hm'⟩ := bulkTurn_partial hb ha hja hrest hrep hauth
      refine ⟨t, c', hturn t c' h (by rcases hw.turn with rfl | rfl <;> decide), hw, ?_⟩
      rw [hm', hm, List.length_cons]
      omega
    · -- `a` arrived whole, the cut falls in the arguments after it
      have hX : c.rest = lengthLine 36 a.length ++
          (a ++ [13, 10] ++ (as.flatMap bulk).take (j - (bulk a).length)) := by
        rw [hrest, List.take_append_eq_append_take, List.take_of_length_le hja, bulk,
          List.append_assoc]
      obtain ⟨c₁, h, hst, hcons, -, hq₁, hpeak₁⟩ :=
        bulkTurn_line hb h0 (by simp [hm]) (by rw [hm]; exact hsum) hlen hX (by simp)
          (by unfold protoMbulkBigArg at ha; omega) hrep hauth
      rw [if_neg (not_and_of_not_left _ (Nat.not_le.2 ha))] at hq₁ hpeak₁
      have hrest₁ : c₁.rest = (as.flatMap bulk).take (j - (bulk a).length) := by
        rw [hcons.rest_eq, hX, List.drop_append,
          show a.length + 2 = (a ++ [13, 10]).length by simp, List.drop_left]
      obtain ⟨t, c', hloop, hw, hm'⟩ := ih c₁ hst.bulklen (by rw [hst.argc]; omega)
        (by rw [hst.multibulklen, hm]; simp) (by rw [hst.argc]; simp at hsum; omega)
        hst.argvLen_le (by omega) hrest₁ (fun a' ha' => hargs a' (List.mem_cons_of_mem _ ha'))
        (by rw [ValkeyClient.isReplicated, hst.readFlags]; exact hrep)
        (by rw [ValkeyClient.authRequired, hst.readFlags]; exact hauth)
      refine ⟨t, c', ?_, ⟨hw.turn, hw.querybuf.trans hq₁, hw.querybufPeak.trans hpeak₁,
        hw.reqtype.trans hst.reqtype⟩, hm'⟩
      simp only [List.length_cons, bulkLoop]
      rw [if_neg (by rw [hm]; simp only [List.length_cons]; omega), h]
      exact hloop

end Loop

section Call

variable {c : ValkeyClient} {args : List (List UInt8)} {k : Nat}

/-- Flag 0, a command still incomplete: the call returns 0. -/
theorem reportFlag_zero (c : ValkeyClient) :
    reportFlag 0 c = .ok 0 { c with readFlags := c.readFlags ||| 0 } := by
  rw [reportFlag]
  exact (if_neg (by decide)).trans (if_neg (by decide))

/-- `parseMultibulk` on the first `k` bytes of the frame of a small command, from a client with
no command in progress: it returns 0 with the buffer and the request type kept. -/
theorem parseMultibulk_truncated (hm : c.multibulklen = 0) (hargc : c.argc = 0)
    (hrep : c.isReplicated = false) (hauth : c.authRequired = false) (hsmall : SmallCommand args)
    (hk : k < (multibulk args).length) (hrest : c.rest = (multibulk args).take k) :
    ∃ c', parseMultibulk c = .ok 0 c' ∧ c'.querybuf = c.querybuf ∧
      c'.querybufPeak = c.querybufPeak ∧ c'.reqtype = c.reqtype ∧
      ((lengthLine 42 args.length).length ≤ k → c'.multibulklen ≠ 0) := by
  obtain ⟨hn, hmax, hargs⟩ := hsmall
  rcases Nat.lt_or_ge k (lengthLine 42 args.length).length with hkl | hkl
  · -- the count line is cut
    rw [multibulk, List.take_append_of_le_length hkl.le] at hrest
    refine ⟨c, ?_, rfl, rfl, rfl, fun h => absurd h (Nat.not_le.2 hkl)⟩
    rw [parseMultibulk, if_pos hm, readMultibulkLen_partial hargc (by omega) hkl hrest]
  · -- the count line is in, the cut falls in the arguments
    have hline : c.rest = lengthLine 42 args.length ++
        (args.flatMap bulk).take (k - (lengthLine 42 args.length).length) := by
      rw [hrest, multibulk, List.take_append_eq_append_take, List.take_of_length_le hkl]
    set c₁ : ValkeyClient :=
      { c with
        qbPos := c.qbPos + (lengthLine 42 args.length).length
        multibulklen := args.length
        bulklen := -1
        argv := fun _ => []
        argvLen := min (args.length : Int) 1024
        argvLenSum := 0
        netInputBytesCurrCmd := c.netInputBytesCurrCmd + (lengthLine 42 args.length).length
        declared := args.length }
    have hrest₁ : c₁.rest = (args.flatMap bulk).take (k - (lengthLine 42 args.length).length) := by
      simp only [c₁, ValkeyClient.rest]
      rw [← List.drop_drop, ← ValkeyClient.rest, hline, List.drop_left]
    obtain ⟨t, c', hloop, hw, hm'⟩ := bulkLoop_truncated args c₁ rfl (by simp [c₁, hargc]) rfl
      (by simp [c₁, hargc]; unfold intMax; omega) (by simp only [c₁]; unfold intMax; omega)
      (by simp only [multibulk, List.length_append] at hk; omega) hrest₁ hargs hrep hauth
    refine ⟨c', ?_, hw.querybuf, hw.querybufPeak, hw.reqtype, fun _ => hm'⟩
    rw [parseMultibulk, if_pos hm,
      readMultibulkLen_line hargc hline hn (by unfold intMax; omega) hauth]
    dsimp only
    rw [if_pos (by simp [c₁]; omega), show c₁.multibulklen.toNat = args.length by simp [c₁], hloop]
    rcases hw.turn with rfl | rfl
    · exact if_neg hm'
    · rfl

/-- A call on the first `k` bytes of the frame of a small command, from an idle client: it
returns 0 ("need more input") and leaves the buffer and `querybuf_peak` alone; once the count
line is in, the command is left in progress. -/
theorem valkeyParseCommand_truncated (hi : Idle c) (hsmall : SmallCommand args) (hk0 : 0 < k)
    (hk : k < (multibulk args).length) (hrest : c.rest = (multibulk args).take k) :
    ∃ c', valkeyParseCommand c = .ok 0 c' ∧ c'.querybuf = c.querybuf ∧
      c'.querybufPeak = c.querybufPeak ∧
      ((lengthLine 42 args.length).length ≤ k → c'.multibulklen ≠ 0) := by
  obtain ⟨k', rfl⟩ : ∃ k', k = k' + 1 := ⟨k - 1, by omega⟩
  have hstar : c.rest = 42 :: (decimal args.length ++ [13, 10] ++ args.flatMap bulk).take k' := by
    rw [hrest, multibulk, lengthLine]
    simp
  obtain ⟨c', hpm, hq, hpeak, -, hm⟩ := @parseMultibulk_truncated { c with reqtype := protoReqMultibulk }
    args _ hi.multibulklen hi.argc hi.replicated hi.auth hsmall hk hrest
  rw [valkeyParseCommand_of_star hi.reqtype hstar, bind_of_ok hpm]
  exact ⟨_, reportFlag_zero c', hq, hpeak, hm⟩

/-- The first `k` bytes of the frame of a small command end the replay's inner loop. -/
theorem endsCommandLoop_take (hsmall : SmallCommand args) (hk0 : 0 < k)
    (hk : k < (multibulk args).length) : EndsCommandLoop ((multibulk args).take k) :=
  .inr fun _ hi hrest =>
    have ⟨c', h, hq, hpeak, _⟩ := valkeyParseCommand_truncated hi hsmall hk0 hk hrest
    ⟨c', h, hq, hpeak⟩

end Call

/-- `benchmark_resp_parsing` on well-formed commands followed by the first `k` bytes of the frame
of a small command, as a workload file cut short leaves it: each iteration counts the commands
before the cut and their bytes, the cut bytes are never counted, and the benchmark returns 1. -/
theorem benchmarkRespParsing_truncatedLast (cmds : List (List (List UInt8)))
    (hok : ∀ args ∈ cmds, WellSized args) {args : List (List UInt8)} (hsmall : SmallCommand args)
    {k : Nat} (hk0 : 0 < k) (hk : k < (multibulk args).length) (fuel iterations : Nat)
    (hfuel : cmds.length < fuel) :
    benchmarkRespParsing fuel ((cmds.map multibulk).flatten ++ (multibulk args).take k) iterations =
      .ret 1 ⟨iterations * cmds.length % wordMod,
        iterations * (cmds.map multibulk).flatten.length % wordMod⟩ := by
  have hT : (multibulk args).take k ≠ [] := by
    rw [Ne, List.take_eq_nil_iff, not_or]
    exact ⟨by omega, List.ne_nil_of_length_pos (by omega)⟩
  rw [benchmarkRespParsing, iterationLoop_frames hok (endsCommandLoop_take hsmall hk0 hk)
    (fun h => absurd h hT) hfuel iterations _ _ rfl rfl (by decide) (by decide), Nat.zero_add,
    Nat.zero_add]

theorem benchmarkRespParsing_truncatedLast_getSet :
    let cmds : List (List (List UInt8)) := [[[71, 69, 84], [107]]]
    let args : List (List UInt8) := [[83, 69, 84], [107], [118]]
    (∀ args ∈ cmds, WellSized args) ∧ SmallCommand args ∧ 0 < 5 ∧
    5 < (multibulk args).length ∧ cmds.length < 2 ∧
    benchmarkRespParsing 2 ((cmds.map multibulk).flatten ++ (multibulk args).take 5) 3 =
      .ret 1 ⟨3 * cmds.length % wordMod, 3 * (cmds.map multibulk).flatten.length % wordMod⟩ :=
  have hlen : 5 < (multibulk [[83, 69, 84], [107], [118]]).length := by
    simp [multibulk, decimal_of_lt]
  ⟨by decide, by decide, by decide, hlen, by decide,
    benchmarkRespParsing_truncatedLast _ (by decide) (by decide) (by decide) hlen 2 3 (by decide)⟩


section NonPositive

variable {c : ValkeyClient}

theorem cr_not_mem_renderLL (v : Int) : (13 : UInt8) ∉ renderLL v := by
  unfold renderLL
  split_ifs
  · exact List.not_mem_cons_of_ne_of_not_mem (by decide) (cr_not_mem_decimal _)
  · exact cr_not_mem_decimal _

/-- The count line `*<v>\r` of a value `v <= 0`, with any byte after the `'\r'`: the cursor moves
past it and `parseMultibulk` reports `READ_FLAGS_PARSING_NEGATIVE_MBULK_LEN`. -/
theorem readMultibulkLen_nonPositive {v : Int} {x : UInt8} {R : List UInt8} (hargc : c.argc = 0)
    (hlo : llongMin ≤ v) (hv : v ≤ 0) (hrest : c.rest = 42 :: renderLL v ++ 13 :: x :: R) :
    readMultibulkLen c = .ok (.ret readFlagsParsingNegativeMbulkLen)
      { c with qbPos := c.qbPos + (renderLL v).length + 3 } := by
  have hpre : (13 : UInt8) ∉ 42 :: renderLL v :=
    List.not_mem_cons_of_ne_of_not_mem (by decide) (cr_not_mem_renderLL v)
  have hr : c.rest = (42 :: renderLL v) ++ 13 :: x :: R := hrest
  have hslen : c.qbPos + (42 :: renderLL v).length - (1 + c.qbPos) = (renderLL v).length := by
    simp only [List.length_cons]
    omega
  have hsl : slice c.querybuf (1 + c.qbPos) (renderLL v).length = renderLL v := by
    rw [slice, Nat.add_comm 1, ← List.drop_drop, ← ValkeyClient.rest, hr]
    simp
  rw [readMultibulkLen, if_neg (by simp [hargc]), findCR_of_rest hpre hr]
  dsimp only
  rw [if_neg (not_lineIncomplete hr), if_neg (by simp [byteAt_of_rest hr]), hslen, hsl,
    string2ll_renderLL hlo (by unfold llongMax; omega)]
  dsimp only
  rw [if_neg (by unfold intMax; omega), if_neg (by omega), if_pos hv]
  simp only [List.length_cons, Nat.add_assoc]

/-- A call on a count line of a value `v <= 0` from an idle client: it returns 0 and leaves the
buffer and `querybuf_peak` alone. -/
theorem valkeyParseCommand_nonPositive {v : Int} {x : UInt8} {R : List UInt8} (hi : Idle c)
    (hlo : llongMin ≤ v) (hv : v ≤ 0) (hrest : c.rest = 42 :: renderLL v ++ 13 :: x :: R) :
    ∃ c', valkeyParseCommand c = .ok 0 c' ∧ c'.querybuf = c.querybuf ∧
      c'.querybufPeak = c.querybufPeak := by
  have hpm : parseMultibulk { c with reqtype := protoReqMultibulk } =
      .ok readFlagsParsingNegativeMbulkLen
        { c with reqtype := protoReqMultibulk, qbPos := c.qbPos + (renderLL v).length + 3 } := by
    rw [parseMultibulk, if_pos hi.multibulklen,
      @readMultibulkLen_nonPositive { c with reqtype := protoReqMultibulk } v x R hi.argc hlo hv hrest]
  rw [valkeyParseCommand_of_star hi.reqtype hrest, bind_of_ok hpm, reportFlag]
  exact ⟨_, (if_neg (by decide)).trans (if_neg (by decide)), rfl, rfl⟩

end NonPositive

/-- `benchmark_resp_parsing` on well-formed commands followed by a count line of a value `<= 0`
(`*0`, or `*-1` the null array) and any bytes after it: each iteration counts the commands before
that line and their bytes, never what follows it, and the benchmark returns 1. -/
theorem benchmarkRespParsing_stopsAtNonPositiveCount (cmds : List (List (List UInt8)))
    (hok : ∀ args ∈ cmds, WellSized args) {v : Int} (hlo : llongMin ≤ v) (hv : v ≤ 0)
    (x : UInt8) (R : List UInt8) (fuel iterations : Nat) (hfuel : cmds.length < fuel) :
    benchmarkRespParsing fuel ((cmds.map multibulk).flatten ++ (42 :: renderLL v ++ 13 :: x :: R))
      iterations =
      .ret 1 ⟨iterations * cmds.length % wordMod,
        iterations * (cmds.map multibulk).flatten.length % wordMod⟩ := by
  rw [benchmarkRespParsing, iterationLoop_frames hok
    (.inr fun _ hi hrest => valkeyParseCommand_nonPositive hi hlo hv hrest)
    (fun h => absurd h (List.cons_ne_nil _ _)) hfuel iterations _ _ rfl rfl (by decide) (by decide),
    Nat.zero_add, Nat.zero_add]

theorem benchmarkRespParsing_stopsAtNonPositiveCount_nullArray :
    let cmds : List (List (List UInt8)) := [[[71, 69, 84], [107]]]
    (∀ args ∈ cmds, WellSized args) ∧ llongMin ≤ -1 ∧ (-1 : Int) ≤ 0 ∧ cmds.length < 2 ∧
    benchmarkRespParsing 2
      ((cmds.map multibulk).flatten ++ (42 :: renderLL (-1) ++ 13 :: 10 :: multibulk [[80, 73, 78, 71]]))
      3 = .ret 1 ⟨3 * cmds.length % wordMod, 3 * (cmds.map multibulk).flatten.length % wordMod⟩ :=
  ⟨by decide, by unfold llongMin; decide, by decide, by decide,
    benchmarkRespParsing_stopsAtNonPositiveCount _ (by decide) (by unfold llongMin; decide)
      (by decide) 10 _ 2 3 (by decide)⟩

section Reachable

variable {c : ValkeyClient}

/-- Every state the benchmark can bring the client to keeps the invariant, and a call of the
parser from it never stores past the end of `argv` and never overflows while growing `argv`: it
stops only at a failed `assert` or at the `argc * 2` of a completed command. -/
theorem reachable_clientInvAndSafeCall (h : Reachable c) :
    ClientInv c ∧ ∀ e c', valkeyParseCommand c = .error e c' → StopAllowed e c' := by
  refine ⟨h.clientInv, fun e c' he => ?_⟩
  have hs := valkeyParseCommand_safe h.clientInv
  rw [he] at hs
  exact hs

/-- `GET k` cut inside the length line of `k`, parsed, then the rest of the frame appended: a
state in the middle of a command, with one argument to come. -/
theorem reachable_clientInvAndSafeCall_midCommand :
    ∃ c₁, valkeyParseCommand (valkeyClientInit ((multibulk [[71, 69, 84], [107]]).take 15)) =
        .ok 0 c₁ ∧
      0 < (c₁.appendInput ((multibulk [[71, 69, 84], [107]]).drop 15)).multibulklen ∧
      ClientInv (c₁.appendInput ((multibulk [[71, 69, 84], [107]]).drop 15)) ∧
      ∀ e c', valkeyParseCommand (c₁.appendInput ((multibulk [[71, 69, 84], [107]]).drop 15)) =
        .error e c' → StopAllowed e c' := by
  have hlen : 15 < (multibulk [[71, 69, 84], [107]]).length := by
    simp [multibulk, decimal_of_lt]
  obtain ⟨c₁, h, -, -, hm⟩ := @valkeyParseCommand_truncated
    (valkeyClientInit ((multibulk [[71, 69, 84], [107]]).take 15)) [[71, 69, 84], [107]] 15
    ⟨rfl, rfl, rfl, by simp, by simp, rfl⟩ (by decide) (by decide) hlen rfl
  have hsafe := reachable_clientInvAndSafeCall
    (.appendInput ((multibulk [[71, 69, 84], [107]]).drop 15) (.parse (.init _) h))
  exact ⟨c₁, h, lt_of_le_of_ne hsafe.1.multibulklen_nonneg
    (Ne.symm (hm (by simp [lengthLine, decimal_of_lt]))), hsafe⟩

end Reachable

end ProtocolBench.Resp
