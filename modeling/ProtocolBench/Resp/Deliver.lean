import ProtocolBench.Resp.Frame

/-!
A whole frame delivered at once. From an idle client whose unread input is a multibulk frame
followed by anything, one call of `valkey_parse_command` stores every argument, leaves the cursor
after the frame and counts the frame's bytes, as long as `argc * 2` fits an `int`. From
`2^30` arguments on it does not: the completion multiplies in `int` and overflows.
-/

namespace ProtocolBench.Resp
open RespM

/-- The input ends with a big argument and its CRLF: the case in which the parser captures its
buffer instead of copying the argument. -/
def capturesLast (args : List (List UInt8)) (S : List UInt8) : Prop :=
  S = [] ∧ ∃ a ∈ args.getLast?, protoMbulkBigArg ≤ a.length

theorem capturesLast_nil (S : List UInt8) : ¬ capturesLast [] S := by
  simp [capturesLast]

theorem capturesLast_cons (a S : List UInt8) (as : List (List UInt8)) :
    capturesLast (a :: as) S ↔ if as = [] then S = [] ∧ protoMbulkBigArg ≤ a.length
      else capturesLast as S := by
  cases as with
  | nil => simp [capturesLast]
  | cons b bs => simp [capturesLast, List.getLast?_cons_cons]

/-- What the bulk loop does with a run of well-formed arguments, from the turn where `argc`
arguments are stored and `args` are to come. -/
structure LoopRead (c c' : ValkeyClient) (args : List (List UInt8)) (S : List UInt8) : Prop where
  multibulklen : c'.multibulklen = 0
  bulklen : c'.bulklen = -1
  argc : c'.argc = c.argc + args.length
  argv_new : ∀ i (hi : i < args.length), c'.argv (c.argc.toNat + i) = args[i]
  argv_old : ∀ j < c.argc.toNat, c'.argv j = c.argv j
  consumes : Consumes c c' (args.flatMap bulk).length
  counted : c'.netInputBytesCurrCmd + c'.argvLenSum + 2 * args.length =
    c.netInputBytesCurrCmd + c.argvLenSum + (args.flatMap bulk).length
  readFlags : c'.readFlags = c.readFlags
  reqtype : c'.reqtype = c.reqtype
  declared : c'.declared = c.declared
  kept : ¬ capturesLast args S → c'.querybuf = c.querybuf ∧ c'.querybufPeak = c.querybufPeak
  captured : capturesLast args S → c'.querybuf = []

theorem LoopRead.refl (c : ValkeyClient) (hm : c.multibulklen = 0) (hb : c.bulklen = -1)
    (hq : c.qbPos ≤ c.querybuf.length) (S : List UInt8) : LoopRead c c [] S where
  multibulklen := hm
  bulklen := hb
  argc := by simp
  argv_new := fun _ hi => absurd hi (Nat.not_lt_zero _)
  argv_old := fun _ _ => rfl
  consumes := ⟨⟨[], rfl, rfl⟩, hq⟩
  counted := rfl
  readFlags := rfl
  reqtype := rfl
  declared := rfl
  kept := fun _ => ⟨rfl, rfl⟩
  captured := fun h => absurd h (capturesLast_nil S)

section Loop

variable {S : List UInt8}

/-- A turn that stores `a` and consumes its bulk, then the loop over `as`: the loop over
`a :: as`. The turn captures the buffer only when `a` is the last argument, big, and ends it. -/
theorem LoopRead.cons {c c₁ c' : ValkeyClient} {a : List UInt8} {as : List (List UInt8)}
    (h0 : 0 ≤ c.argc) (hst : Stored c c₁ a)
    (hcons : Consumes c c₁ ((lengthLine 36 a.length).length + (a.length + 2)))
    (hnet : c₁.netInputBytesCurrCmd = c.netInputBytesCurrCmd + (lengthLine 36 a.length).length)
    (hq₁ : c₁.querybuf =
      if as = [] ∧ S = [] ∧ protoMbulkBigArg ≤ a.length then [] else c.querybuf)
    (hpeak₁ : c₁.querybufPeak = if as = [] ∧ S = [] ∧ protoMbulkBigArg ≤ a.length then
      max c.querybufPeak (a.length + 2) else c.querybufPeak)
    (hread : LoopRead c₁ c' as S) : LoopRead c c' (a :: as) S := by
  have hflat : ((a :: as).flatMap bulk).length =
      (lengthLine 36 a.length).length + (a.length + 2) + (as.flatMap bulk).length := by
    simp [bulk]; omega
  have hargv := hst.argv_cons h0 hread.argv_new hread.argv_old
  refine ⟨hread.multibulklen, hread.bulklen, by rw [hread.argc, hst.argc]; simp; ring,
    hargv.1, hargv.2, hflat ▸ hcons.trans hread.consumes, ?_, hread.readFlags.trans hst.readFlags,
    hread.reqtype.trans hst.reqtype, hread.declared.trans hst.declared, ?_, ?_⟩
  · have h := hread.counted
    rw [hnet, hst.argvLenSum] at h
    rw [hflat, List.length_cons]
    omega
  · intro hnc
    rw [capturesLast_cons] at hnc
    have hsmall : ¬ (as = [] ∧ S = [] ∧ protoMbulkBigArg ≤ a.length) :=
      fun ⟨has, h⟩ => hnc (by rwa [if_pos has])
    obtain ⟨e₁, e₂⟩ := hread.kept fun h =>
      hnc (by rwa [if_neg fun has : as = [] => capturesLast_nil S (has ▸ h)])
    rw [e₁, e₂, hq₁, hpeak₁, if_neg hsmall, if_neg hsmall]
    exact ⟨rfl, rfl⟩
  · intro hc
    rw [capturesLast_cons] at hc
    split_ifs at hc with has
    · subst has
      rw [(hread.kept (capturesLast_nil S)).1, hq₁, if_pos ⟨rfl, hc⟩]
    · exact hread.captured hc

/-- The loop `while (c->multibulklen)` on `args` followed by `S`: one turn per argument, each
stored in order. -/
theorem bulkLoop_bulks (args : List (List UInt8)) (c : ValkeyClient) (hb : c.bulklen = -1)
    (h0 : 0 ≤ c.argc) (hm : c.multibulklen = args.length) (hsum : c.argc + args.length ≤ intMax)
    (hlen : c.argvLen ≤ intMax) (hq : c.qbPos ≤ c.querybuf.length)
    (hrest : c.rest = args.flatMap bulk ++ S) (hargs : ∀ a ∈ args, a.length ≤ 512 * 1024 * 1024)
    (hrep : c.isReplicated = false) (hauth : c.authRequired = false) :
    ∃ c', bulkLoop args.length c = .ok .brk c' ∧ LoopRead c c' args S := by
  induction args generalizing c with
  | nil => exact ⟨c, rfl, LoopRead.refl c (by simpa using hm) hb hq S⟩
  | cons a as ih =>
    have hX : c.rest = lengthLine 36 a.length ++ (a ++ [13, 10] ++ (as.flatMap bulk ++ S)) := by
      rw [hrest]; simp [bulk]
    obtain ⟨c₁, hturn, hst, hcons, hnet, hq₁, hpeak₁⟩ :=
      bulkTurn_line hb h0 (by simp [hm]) (by rw [hm]; exact hsum) hlen hX
        (by simp) (hargs a (by simp)) hrep hauth
    have htake : (a ++ [13, 10] ++ (as.flatMap bulk ++ S)).take a.length = a := by simp
    rw [htake] at hst
    have hrest₁ : c₁.rest = as.flatMap bulk ++ S := by
      rw [hcons.rest_eq, hX, List.drop_append,
        show a.length + 2 = (a ++ [13, 10]).length by simp, List.drop_left]
    have hrep₁ : c₁.isReplicated = false := by
      rw [ValkeyClient.isReplicated, hst.readFlags]; exact hrep
    have hauth₁ : c₁.authRequired = false := by
      rw [ValkeyClient.authRequired, hst.readFlags]; exact hauth
    obtain ⟨c', hloop, hread⟩ := ih c₁ hst.bulklen (by rw [hst.argc]; omega)
      (by rw [hst.multibulklen, hm]; simp) (by rw [hst.argc]; simp at hsum; omega) hst.argvLen_le
      hcons.qbPos_le hrest₁ (fun a' ha' => hargs a' (by simp [ha'])) hrep₁ hauth₁
    -- the turn captures the buffer exactly when `a` is big and ends it
    have hcond : (protoMbulkBigArg ≤ a.length ∧
        (a ++ [13, 10] ++ (as.flatMap bulk ++ S)).length = a.length + 2) ↔
        as = [] ∧ S = [] ∧ protoMbulkBigArg ≤ a.length := by
      cases as with
      | nil => simp [and_comm]
      | cons b bs => simp [bulk]
    refine ⟨c', ?_, LoopRead.cons h0 hst hcons hnet (by simpa only [hcond] using hq₁)
      (by simpa only [hcond] using hpeak₁) hread⟩
    simp only [List.length_cons, bulkLoop]
    rw [if_neg (by rw [hm]; simp only [List.length_cons]; omega), hturn]
    exact hloop

end Loop

/-- What reading a whole frame leaves before the completion: every argument stored, the cursor
after the frame, and the bytes of its lines counted. -/
structure FrameRead (c c' : ValkeyClient) (args : List (List UInt8)) (S : List UInt8) : Prop where
  multibulklen : c'.multibulklen = 0
  bulklen : c'.bulklen = -1
  argc : c'.argc = args.length
  argv : ∀ i (hi : i < args.length), c'.argv i = args[i]
  consumes : Consumes c c' (multibulk args).length
  counted : c'.netInputBytesCurrCmd + c'.argvLenSum + 2 * args.length =
    c.netInputBytesCurrCmd + (multibulk args).length
  readFlags : c'.readFlags = c.readFlags
  reqtype : c'.reqtype = c.reqtype
  kept : ¬ capturesLast args S → c'.querybuf = c.querybuf ∧ c'.querybufPeak = c.querybufPeak
  captured : capturesLast args S → c'.querybuf = []

section Frame

variable {c : ValkeyClient} {args : List (List UInt8)} {S : List UInt8}

/-- `parseMultibulk` on a frame, from a client with no command in progress: the count line, then
the loop over the arguments. What remains is the completion. -/
theorem parseMultibulk_frame (hm : c.multibulklen = 0) (hargc : c.argc = 0)
    (hrep : c.isReplicated = false) (hauth : c.authRequired = false) (hn : 0 < args.length)
    (hmax : (args.length : Int) ≤ intMax) (hargs : ∀ a ∈ args, a.length ≤ 512 * 1024 * 1024)
    (hrest : c.rest = multibulk args ++ S) :
    ∃ c', parseMultibulk c = finishMultibulk c' ∧ FrameRead c c' args S := by
  have hline : c.rest = lengthLine 42 args.length ++ (args.flatMap bulk ++ S) := by
    rw [hrest, multibulk, List.append_assoc]
  have hfits : c.qbPos + (lengthLine 42 args.length).length ≤ c.querybuf.length := by
    have := congrArg List.length hline
    simp only [ValkeyClient.rest, List.length_drop, List.length_append, lengthLine_length] at this ⊢
    omega
  set c₁ : ValkeyClient :=
    { c with
      qbPos := c.qbPos + (lengthLine 42 args.length).length
      multibulklen := args.length
      bulklen := -1
      argv := fun _ => []
      argvLen := min (args.length : Int) 1024
      argvLenSum := 0
      netInputBytesCurrCmd := c.netInputBytesCurrCmd + (lengthLine 42 args.length).length
      declared := args.length }
  have hrest₁ : c₁.rest = args.flatMap bulk ++ S := by
    simp only [c₁, ValkeyClient.rest]
    rw [← List.drop_drop, ← ValkeyClient.rest, hline, List.drop_left]
  obtain ⟨c', hloop, hread⟩ := bulkLoop_bulks args c₁ rfl (by simp [c₁, hargc]) rfl
    (by simp [c₁, hargc]; exact hmax) (by simp only [c₁]; unfold intMax; omega) hfits hrest₁ hargs
    hrep hauth
  have hrun : parseMultibulk c = finishMultibulk c' := by
    rw [parseMultibulk, if_pos hm, readMultibulkLen_line hargc hline hn hmax hauth]
    dsimp only
    rw [if_pos (by simp [c₁]; omega), show c₁.multibulklen.toNat = args.length by simp [c₁], hloop]
  have hargc₁ : c₁.argc.toNat = 0 := by simp [c₁, hargc]
  refine ⟨c', hrun, hread.multibulklen, hread.bulklen, by rw [hread.argc]; simp [c₁, hargc],
    fun i hi => by rw [← hread.argv_new i hi, hargc₁, Nat.zero_add], ?_, ?_, hread.readFlags,
    hread.reqtype, fun h => hread.kept h, hread.captured⟩
  · have := (@consumes_advance c c₁ _ rfl rfl hfits).trans hread.consumes
    rwa [multibulk, List.length_append]
  · have := hread.counted
    simp only [c₁] at this
    rw [multibulk, List.length_append]
    omega

/-- A call on a client with no request in progress and a `'*'` at the cursor parses a multibulk
request. -/
theorem valkeyParseCommand_of_star {tl : List UInt8} (hreq : c.reqtype = 0)
    (hstar : c.rest = 42 :: tl) :
    valkeyParseCommand c = (parseMultibulk >>= reportFlag) { c with reqtype := protoReqMultibulk } := by
  have hbyte : byteAt c.querybuf c.qbPos = 42 := by
    rw [byteAt, List.getD_eq_getElem?_getD, ← Nat.add_zero c.qbPos, ← List.getElem?_drop,
      ← ValkeyClient.rest, hstar]; simp
  have hlt : c.qbPos < c.querybuf.length := by
    have := congrArg List.length hstar
    simp only [ValkeyClient.rest, List.length_drop, List.length_cons] at this
    omega
  rw [valkeyParseCommand, if_neg (by omega)]
  dsimp only
  rw [if_pos hreq, if_pos hbyte, if_pos rfl]

/-- A frame delivered at once to an idle client: the call returns 1 with the `n` arguments in
`argv`, the frame consumed and its bytes counted, as long as `n < 2^30`. -/
theorem valkeyParseCommand_frame (hm : c.multibulklen = 0) (hargc : c.argc = 0)
    (hreq : c.reqtype = 0) (hrep : c.isReplicated = false) (hauth : c.authRequired = false)
    (hn : 0 < args.length) (hsmall : args.length < 2 ^ 30)
    (hargs : ∀ a ∈ args, a.length ≤ 512 * 1024 * 1024) (hrest : c.rest = multibulk args ++ S) :
    ∃ c', valkeyParseCommand c = .ok 1 c' ∧ c'.argc = args.length ∧
      (∀ i (hi : i < args.length), c'.argv i = args[i]) ∧ c'.rest = S ∧
      c'.netInputBytesCurrCmd = c.netInputBytesCurrCmd + (multibulk args).length ∧
      c'.multibulklen = 0 ∧ c'.bulklen = -1 ∧ c'.reqtype = 0 ∧
      c'.readFlags = c.readFlags ||| readFlagsParsingCompleted ∧
      Consumes c c' (multibulk args).length ∧
      (¬ capturesLast args S → c'.querybuf = c.querybuf ∧ c'.querybufPeak = c.querybufPeak) ∧
      (capturesLast args S → c'.querybuf = []) := by
  have hstar : c.rest = 42 :: (decimal args.length ++ [13, 10] ++ args.flatMap bulk ++ S) := by
    rw [hrest]; simp [multibulk, lengthLine]
  obtain ⟨c', hpm, hfr⟩ := @parseMultibulk_frame { c with reqtype := protoReqMultibulk } args S
    hm hargc hrep hauth hn (by unfold intMax; omega) hargs hrest
  have hfin := finishMultibulk_of_fits hfr.multibulklen (by rw [hfr.argc]; omega)
    (by rw [hfr.argc]; unfold intMax; omega)
  rw [valkeyParseCommand_of_star hreq hstar, bind_of_ok (hpm.trans hfin), reportFlag_completed]
  refine ⟨_, rfl, hfr.argc, hfr.argv, ?_, ?_, hfr.multibulklen, hfr.bulklen, rfl,
    by rw [hfr.readFlags], ⟨hfr.consumes.dropped, hfr.consumes.qbPos_le⟩, hfr.kept, hfr.captured⟩
  · show c'.rest = S
    rw [hfr.consumes.rest_eq]
    show (c.rest).drop _ = S
    rw [hrest, List.drop_left]
  · have h := hfr.counted
    dsimp only at h
    show c'.netInputBytesCurrCmd + (c'.argvLenSum + (c'.argc * 2).toNat) = _
    rw [hfr.argc]
    omega

/-- From `2^30` arguments on, the completion's `*argc * 2` overflows `int`: the call does not
return, however the frame is otherwise well formed. -/
theorem frame_argcTimesTwoOverflows (hm : c.multibulklen = 0) (hargc : c.argc = 0)
    (hreq : c.reqtype = 0) (hrep : c.isReplicated = false) (hauth : c.authRequired = false)
    (hbig : 2 ^ 30 ≤ args.length) (hmax : (args.length : Int) ≤ intMax)
    (hargs : ∀ a ∈ args, a.length ≤ 512 * 1024 * 1024) (hrest : c.rest = multibulk args ++ S) :
    ∃ c', valkeyParseCommand c = .error .signedOverflow c' ∧ c'.argc = args.length ∧
      c'.multibulklen = 0 ∧ c'.rest = S := by
  have hstar : c.rest = 42 :: (decimal args.length ++ [13, 10] ++ args.flatMap bulk ++ S) := by
    rw [hrest]; simp [multibulk, lengthLine]
  obtain ⟨c', hpm, hfr⟩ := @parseMultibulk_frame { c with reqtype := protoReqMultibulk } args S
    hm hargc hrep hauth (by omega) hmax hargs hrest
  have hfin := finishMultibulk_of_overflow hfr.multibulklen (by rw [hfr.argc]; unfold intMax; omega)
  rw [valkeyParseCommand_of_star hreq hstar]
  refine ⟨c', ?_, hfr.argc, hfr.multibulklen, ?_⟩
  · show EStateM.bind parseMultibulk reportFlag _ = _
    unfold EStateM.bind
    rw [hpm, hfin]
  · rw [hfr.consumes.rest_eq]
    show (c.rest).drop _ = S
    rw [hrest, List.drop_left]

theorem frame_argcTimesTwoOverflows_emptyArgs :
    ∃ c', valkeyParseCommand (valkeyClientInit (multibulk (List.replicate (2 ^ 30) []))) =
      .error .signedOverflow c' ∧ c'.argc = 2 ^ 30 ∧ c'.multibulklen = 0 ∧ c'.rest = [] := by
  have hlen : (List.replicate (2 ^ 30) ([] : List UInt8)).length = 2 ^ 30 := List.length_replicate _ _
  obtain ⟨c', h, hargc, hm, hrest⟩ :=
    @frame_argcTimesTwoOverflows (valkeyClientInit (multibulk (List.replicate (2 ^ 30) [])))
      (List.replicate (2 ^ 30) []) [] rfl rfl rfl (ValkeyClient.isReplicated_init _)
      (ValkeyClient.authRequired_init _) hlen.ge (by rw [hlen]; decide)
      (fun a ha => by rw [List.eq_of_mem_replicate ha]; decide)
      (by rw [ValkeyClient.rest, List.append_nil]; rfl)
  exact ⟨c', h, by rw [hargc, hlen]; norm_num, hm, hrest⟩
end Frame

end ProtocolBench.Resp
