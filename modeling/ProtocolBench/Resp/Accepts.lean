import ProtocolBench.Resp.Invariant
import ProtocolBench.Resp.Numeral
import ProtocolBench.Resp.Replay

/-!
What the RESP parser accepts. When `valkey_parse_command` returns 1 from an idle client, the bytes
it consumed are a frame of the arguments it stored: the count line, then for each argument its
length line, its bytes and two bytes more. The count and each length are the decimals of their
values, since `string2ll` reads a value `>= 0` from nothing else (`eq_decimal_of_string2ll`).
What the parser never looks at is the byte after the `'\r'` of each line, which it skips as the
`'\n'`, and the two bytes after each argument, which it skips as the CRLF. The frames it accepts
are those of `looseMultibulk`; the well-formed `multibulk` frames are those with `'\n'` and CRLF
in each of these places.

The proof runs the parser backwards: each part that goes on past its input says what that input
was (`readMultibulkLen_ok`, `readBulkLen_cont`, `bulkTurn_accepts`), and the loop composes the
turns.
-/

namespace ProtocolBench.Resp
open RespM

/-- An argument as `parseMultibulk` reads it: its bytes, the byte after the `'\r'` of its length
line, and the two bytes after it. -/
structure LooseArg where
  bytes : List UInt8
  lineEnd : UInt8
  endCR : UInt8
  endLF : UInt8
  deriving DecidableEq, Repr

/-- `$<len>\r`, one byte, the argument's bytes and two bytes more. -/
def LooseArg.frame (a : LooseArg) : List UInt8 :=
  looseLine 36 a.bytes.length a.lineEnd ++ (a.bytes ++ [a.endCR, a.endLF])

/-- The argument `a` with `'\n'` and CRLF in the places the parser skips. -/
def LooseArg.ofBytes (a : List UInt8) : LooseArg := ⟨a, 10, 13, 10⟩

/-- `*<n>\r`, one byte, and `n` arguments: a frame as `parseMultibulk` reads it. -/
def looseMultibulk (lineEnd : UInt8) (args : List LooseArg) : List UInt8 :=
  looseLine 42 args.length lineEnd ++ args.flatMap LooseArg.frame

/-- A well-formed frame is the loose frame with `'\n'` and CRLF in every place the parser
skips. -/
theorem multibulk_eq_looseMultibulk (args : List (List UInt8)) :
    multibulk args = looseMultibulk 10 (args.map LooseArg.ofBytes) := by
  have hargs : (args.map LooseArg.ofBytes).flatMap LooseArg.frame = args.flatMap bulk := by
    induction args with
    | nil => rfl
    | cons a as ih =>
      rw [List.map_cons, List.flatMap_cons, List.flatMap_cons, ih]
      rfl
  rw [multibulk, looseMultibulk, hargs, List.length_map]
  rfl

theorem RespM.bind_eq_ok {α β : Type} {x : RespM α} {f : α → RespM β} {c c' : ValkeyClient}
    {b : β} (h : (x >>= f) c = .ok b c') : ∃ a c₁, x c = .ok a c₁ ∧ f a c₁ = .ok b c' := by
  cases hx : x c with
  | ok a c₁ => exact ⟨a, c₁, rfl, by rwa [bind_of_ok hx] at h⟩
  | error e c₁ =>
    have herr : (x >>= f) c = .error e c₁ := by
      show EStateM.bind x f c = _
      unfold EStateM.bind
      rw [hx]
    rw [herr] at h
    cases h

section Lines

variable {c : ValkeyClient}

/-- Where `memchr` finds a `'\r'`: the unread input is bytes without one, the `'\r'`, and the
rest. -/
theorem rest_of_findCR {nl : Nat} (h : findCR c.querybuf c.qbPos = some nl) :
    ∃ pre post, (13 : UInt8) ∉ pre ∧ c.rest = pre ++ 13 :: post ∧ nl = c.qbPos + pre.length := by
  rw [findCR, ← ValkeyClient.rest, Option.map_eq_some'] at h
  obtain ⟨i, hi, rfl⟩ := h
  obtain ⟨hlt, h13, hbefore⟩ := List.findIdx?_eq_some_iff_getElem.1 hi
  have h13' : c.rest[i] = 13 := by simpa using h13
  refine ⟨c.rest.take i, c.rest.drop (i + 1), fun hm => ?_, ?_, ?_⟩
  · obtain ⟨j, hj, e⟩ := List.mem_take_iff_getElem.1 hm
    exact hbefore j (by omega) (by simp [e])
  · rw [← h13', List.getElem_cons_drop, List.take_append_drop]
  · rw [List.length_take, min_eq_left hlt.le, Nat.add_comm]

/-- A line the parser reads whole: its tag, bytes without a `'\r'`, the `'\r'` and one more byte;
the bytes between the tag and the `'\r'` are what `string2ll` is given. -/
theorem rest_of_line {tag : UInt8} {nl : Nat} (htag : tag ≠ 13)
    (hcr : findCR c.querybuf c.qbPos = some nl) (hinc : ¬ c.lineIncomplete nl)
    (hbyte : byteAt c.querybuf c.qbPos = tag) :
    ∃ ds x R, c.rest = tag :: ds ++ 13 :: x :: R ∧ nl = c.qbPos + 1 + ds.length ∧
      slice c.querybuf (c.qbPos + 1) ds.length = ds := by
  obtain ⟨pre, post, -, hr, rfl⟩ := rest_of_findCR hcr
  have hlen := congrArg List.length hr
  simp only [ValkeyClient.rest, List.length_drop, List.length_append, List.length_cons] at hlen
  obtain ⟨x, R, rfl⟩ : ∃ x R, post = x :: R := by
    cases post with
    | nil =>
      simp only [ValkeyClient.lineIncomplete, ValkeyClient.unread, List.length_nil] at hinc hlen
      omega
    | cons x R => exact ⟨x, R, rfl⟩
  cases pre with
  | nil => exact absurd (hbyte.symm.trans (byteAt_of_rest hr)) htag
  | cons b ds =>
    obtain rfl : b = tag := (byteAt_of_rest hr).symm.trans hbyte
    refine ⟨ds, x, R, hr, by simp only [List.length_cons]; omega, ?_⟩
    rw [slice, ← List.drop_drop, ← ValkeyClient.rest, hr]
    simp

/-- The count line: it returns a flag other than completion, or it goes on past `*<n>\r` and one
more byte, with `n` from 1 to `INT_MAX`, from a client with no argument stored. -/
theorem readMultibulkLen_ok {t : Turn} {c₁ : ValkeyClient} (h : readMultibulkLen c = .ok t c₁) :
    (∃ f, t = .ret f ∧ f &&& readFlagsParsingCompleted = 0) ∨
      t = .cont ∧ ∃ n : Nat, ∃ x R, 0 < n ∧ (n : Int) ≤ intMax ∧ c.argc = 0 ∧
        c.rest = looseLine 42 n x ++ R := by
  unfold readMultibulkLen at h
  by_cases hargc : c.argc ≠ 0
  · rw [if_pos hargc] at h
    cases h
  rw [if_neg hargc] at h
  cases hcr : findCR c.querybuf c.qbPos with
  | none =>
    rw [hcr] at h
    cases h
    exact .inl ⟨_, rfl, by split <;> decide⟩
  | some nl =>
  rw [hcr] at h
  dsimp only at h
  by_cases hinc : c.lineIncomplete nl
  · rw [if_pos hinc] at h
    cases h
    exact .inl ⟨_, rfl, by decide⟩
  by_cases hbyte : byteAt c.querybuf c.qbPos ≠ 42
  · rw [if_neg hinc, if_pos hbyte] at h
    cases h
  rw [if_neg hinc, if_neg hbyte] at h
  have h42 : byteAt c.querybuf c.qbPos = 42 := by simpa using hbyte
  obtain ⟨ds, x, R, hr, rfl, hsl⟩ := rest_of_line (by decide) hcr hinc h42
  rw [show c.qbPos + 1 + ds.length - (1 + c.qbPos) = ds.length by omega, Nat.add_comm 1, hsl] at h
  cases hll : string2ll ds with
  | none =>
    rw [hll] at h
    cases h
    exact .inl ⟨_, rfl, by decide⟩
  | some ll =>
  rw [hll] at h
  dsimp only at h
  split_ifs at h with hmax hauth hpos <;> cases h <;> try exact .inl ⟨_, rfl, by decide⟩
  refine .inr ⟨rfl, ll.toNat, x, R, by omega, by unfold intMax at hmax ⊢; omega,
    by simpa using hargc, ?_⟩
  rw [hr, eq_decimal_of_string2ll hll (by omega)]
  simp [looseLine]

/-- The length line of an argument, when the parse goes on past it: `$<len>\r` and one more
byte, with `len` at most 512 MiB. -/
theorem readBulkLen_cont {c₁ : ValkeyClient} (hrep : c.isReplicated = false)
    (h : readBulkLen c = .ok .cont c₁) :
    ∃ L x X, L ≤ 512 * 1024 * 1024 ∧ c.rest = looseLine 36 L x ++ X := by
  unfold readBulkLen at h
  cases hcr : findCR c.querybuf c.qbPos with
  | none =>
    rw [hcr] at h
    dsimp only at h
    split at h <;> cases h
  | some nl =>
  rw [hcr] at h
  dsimp only at h
  by_cases hinc : c.lineIncomplete nl
  · rw [if_pos hinc] at h
    cases h
  by_cases hbyte : byteAt c.querybuf c.qbPos ≠ 36
  · rw [if_neg hinc, if_pos hbyte] at h
    cases h
  rw [if_neg hinc, if_neg hbyte] at h
  have h36 : byteAt c.querybuf c.qbPos = 36 := by simpa using hbyte
  obtain ⟨ds, x, X, hr, rfl, hsl⟩ := rest_of_line (by decide) hcr hinc h36
  rw [show c.qbPos + 1 + ds.length - (c.qbPos + 1) = ds.length by omega, hsl] at h
  cases hll : string2ll ds with
  | none =>
    rw [hll] at h
    cases h
  | some ll =>
  rw [hll] at h
  dsimp only at h
  by_cases hbad : ll < 0 ∨ (!c.isReplicated ∧ ll > 512 * 1024 * 1024)
  · rw [if_pos hbad] at h
    cases h
  simp only [hrep, Bool.not_false, true_and, not_or, not_lt, not_le] at hbad
  refine ⟨ll.toNat, x, X, by omega, ?_⟩
  rw [hr, eq_decimal_of_string2ll hll hbad.1]
  simp [looseLine]

end Lines

section Turn

variable {c : ValkeyClient}

/-- A turn of the loop from a client between arguments. When it goes on, the input it consumed is
one loose argument, and that argument is stored; when it breaks, the count of arguments to come
is as it was. -/
theorem bulkTurn_accepts (hinv : ClientInv c) (hm : 0 < c.multibulklen) (hb : c.bulklen = -1)
    (hrep : c.isReplicated = false) (hauth : c.authRequired = false) {t : Turn}
    {c₁ : ValkeyClient} (h : bulkTurn c = .ok t c₁) :
    (t = .cont → ∃ a : LooseArg, c.rest = a.frame ++ c₁.rest ∧ Stored c c₁ a.bytes) ∧
      (t = .brk → c₁.multibulklen = c.multibulklen) := by
  obtain ⟨hsum, -, hlen⟩ := hinv.inProgress hm
  have hrb := readBulkLen_safe hinv
  have hturn := h
  rw [bulkTurn, if_pos hb] at h
  cases hr : readBulkLen c with
  | error e c₂ =>
    rw [hr] at h
    cases h
  | ok t₂ c₂ =>
    rw [hr] at h hrb
    obtain ⟨-, -, hm₂, -⟩ := hrb
    cases t₂ with
    | brk =>
      cases h
      exact ⟨(fun h => nomatch h), fun _ => hm₂⟩
    | ret f =>
      cases h
      exact ⟨(fun h => nomatch h), fun h => nomatch h⟩
    | cont =>
      obtain ⟨L, x, X, hL, hrest⟩ := readBulkLen_cont hrep hr
      by_cases hX : L + 2 ≤ X.length
      · -- the argument and the two bytes after it are in: the turn stores it
        obtain ⟨c₃, hrun, hst, hcons, -⟩ := bulkTurn_looseLine hb hinv.argc_nonneg hm
          (by rw [hsum]; exact hinv.declared_le) hlen hrest hX hL hrep hauth
        rw [hrun] at hturn
        cases hturn
        refine ⟨fun _ => ?_, (fun h => nomatch h)⟩
        obtain ⟨y, z, R, hyz⟩ : ∃ y z R, X.drop L = y :: z :: R := by
          have : 2 ≤ (X.drop L).length := by rw [List.length_drop]; omega
          match X.drop L, this with
          | y :: z :: R, _ => exact ⟨y, z, R, rfl⟩
        have hlenL : (X.take L).length = L := by rw [List.length_take]; omega
        have hR : X.drop (L + 2) = R := by rw [← List.drop_drop, hyz]; rfl
        refine ⟨⟨X.take L, x, y, z⟩, ?_, hst⟩
        rw [hcons.rest_eq, hrest, List.drop_append, hR]
        conv_lhs => rw [← List.take_append_drop L X, hyz]
        simp [LooseArg.frame, hlenL]
      · -- they are not all in: the turn breaks where the length line left the client
        have hlenX := congrArg List.length hrest
        simp only [ValkeyClient.rest, List.length_drop, List.length_append, looseLine_length] at hlenX
        have hc₂ := readBulkLen_looseLine hrest hL hrep hauth
        rw [hr] at hc₂
        cases hc₂
        dsimp only at h
        rw [readBulkArg, if_pos (by split_ifs <;> simp only [ValkeyClient.unread, looseLine_length] <;> omega)] at h
        cases h
        exact ⟨(fun h => nomatch h), fun _ => hm₂⟩

end Turn

/-- What the loop read when it ran until no argument was left to come: the arguments `args`, in
order, each stored after those before it. -/
structure LoopAccepted (c c' : ValkeyClient) (args : List LooseArg) : Prop where
  rest : c.rest = args.flatMap LooseArg.frame ++ c'.rest
  argc : c'.argc = c.argc + args.length
  argv_new : ∀ i (hi : i < args.length), c'.argv (c.argc.toNat + i) = args[i].bytes
  argv_old : ∀ j < c.argc.toNat, c'.argv j = c.argv j

theorem LoopAccepted.refl (c : ValkeyClient) : LoopAccepted c c [] :=
  ⟨rfl, by simp, fun _ hi => absurd hi (Nat.not_lt_zero _), fun _ _ => rfl⟩

/-- A turn that reads and stores `a`, then the loop over `as`: the loop over `a :: as`. -/
theorem LoopAccepted.cons {c c₁ c' : ValkeyClient} {a : LooseArg} {as : List LooseArg}
    (h0 : 0 ≤ c.argc) (hr : c.rest = a.frame ++ c₁.rest) (hst : Stored c c₁ a.bytes)
    (hread : LoopAccepted c₁ c' as) : LoopAccepted c c' (a :: as) := by
  have hargv := @Stored.argv_cons c c₁ c' a.bytes (as.map LooseArg.bytes) h0 hst
    (fun i hi => by simpa using hread.argv_new i (by simpa using hi)) hread.argv_old
  refine ⟨by rw [hr, hread.rest, List.flatMap_cons, List.append_assoc],
    by rw [hread.argc, hst.argc, List.length_cons]; push_cast; ring, fun i hi => ?_, hargv.2⟩
  have := hargv.1 i (by simpa using hi)
  cases i <;> simpa using this

/-- The loop `while (c->multibulklen)` run until no argument is left to come: the input it
consumed is the loose arguments it stored, one per turn. -/
theorem bulkLoop_accepts : ∀ (m : Nat) (c c' : ValkeyClient) (t : Turn), ClientInv c →
    c.bulklen = -1 → c.multibulklen = m → c.isReplicated = false → c.authRequired = false →
    bulkLoop m c = .ok t c' → (∀ f, t ≠ .ret f) → c'.multibulklen = 0 →
    ∃ args : List LooseArg, args.length = m ∧ LoopAccepted c c' args
  | 0, c, _, _, _, _, _, _, _, h, _, _ => by
    cases h
    exact ⟨[], rfl, LoopAccepted.refl c⟩
  | m + 1, c, c', t, hinv, hb, hm, hrep, hauth, h, hret, hdone => by
    have hpos : 0 < c.multibulklen := by rw [hm]; omega
    have hsafe := bulkTurn_safe hinv hpos
    simp only [bulkLoop] at h
    rw [if_neg (by omega)] at h
    cases hr : bulkTurn c with
    | error e c₁ =>
      rw [hr] at h
      cases h
    | ok t₁ c₁ =>
      rw [hr] at h hsafe
      obtain ⟨hcont, hbrk⟩ := bulkTurn_accepts hinv hpos hb hrep hauth hr
      cases t₁ with
      | brk =>
        cases h
        rw [hbrk rfl, hm] at hdone
        omega
      | ret f =>
        cases h
        exact absurd rfl (hret f)
      | cont =>
        obtain ⟨hinv₁, -⟩ := hsafe
        obtain ⟨a, hrest, hst⟩ := hcont rfl
        obtain ⟨as, hlen, hread⟩ := bulkLoop_accepts m c₁ c' t hinv₁ hst.bulklen
          (by rw [hst.multibulklen, hm]; omega)
          (by rw [ValkeyClient.isReplicated, hst.readFlags]; exact hrep)
          (by rw [ValkeyClient.authRequired, hst.readFlags]; exact hauth) h hret hdone
        exact ⟨a :: as, by rw [List.length_cons, hlen], hread.cons hinv.argc_nonneg hrest hst⟩

section Call

variable {c : ValkeyClient}

/-- The completion reports a command only when no argument is left to come, and it leaves the
cursor and the arguments as the loop left them. -/
theorem finishMultibulk_completed {flag : Nat} {c₁ : ValkeyClient}
    (h : finishMultibulk c = .ok flag c₁) (hflag : flag &&& readFlagsParsingCompleted ≠ 0) :
    c.multibulklen = 0 ∧ c₁.rest = c.rest ∧ c₁.argc = c.argc ∧ c₁.argv = c.argv := by
  unfold finishMultibulk at h
  split at h
  · next hm =>
    simp only [intMul] at h
    split_ifs at h
    cases h
    exact ⟨hm, rfl, rfl, rfl⟩
  · cases h
    exact absurd (by decide) hflag

/-- `valkey_parse_command` returns 1 for a flag with the completion bit only. -/
theorem reportFlag_eq_one {flag : Nat} {c' : ValkeyClient} (h : reportFlag flag c = .ok 1 c') :
    flag &&& readFlagsParsingCompleted ≠ 0 ∧ c' = { c with readFlags := c.readFlags ||| flag } := by
  unfold reportFlag at h
  dsimp only at h
  split at h
  · next hflag =>
    cases h
    exact ⟨hflag, rfl⟩
  · split at h <;>
    · injection h with h₁
      exact absurd h₁ (by decide)

/-- `parseMultibulk` from a client with no command in progress, when it reports a completed
command: what it consumed is a loose frame of the arguments it stored. -/
theorem parseMultibulk_accepts (hm : c.multibulklen = 0) (hrep : c.isReplicated = false)
    (hauth : c.authRequired = false) {flag : Nat} {c' : ValkeyClient}
    (h : parseMultibulk c = .ok flag c') (hflag : flag &&& readFlagsParsingCompleted ≠ 0) :
    ∃ x args, c.rest = looseMultibulk x args ++ c'.rest ∧ c'.argc = args.length ∧
      ∀ i (hi : i < args.length), c'.argv i = args[i].bytes := by
  rw [parseMultibulk, if_pos hm] at h
  cases hr : readMultibulkLen c with
  | error e c₁ =>
    rw [hr] at h
    cases h
  | ok t c₁ =>
    rw [hr] at h
    rcases readMultibulkLen_ok hr with ⟨f, rfl, hf⟩ | ⟨rfl, n, x, R, hn, hmax, hargc, hrest⟩
    · cases h
      exact absurd hf hflag
    have hrun := readMultibulkLen_looseLine hargc hrest hn hmax hauth
    rw [hr] at hrun
    cases hrun
    dsimp only at h
    have hfits : c.qbPos + (looseLine 42 n x).length ≤ c.querybuf.length := by
      have := congrArg List.length hrest
      simp only [ValkeyClient.rest, List.length_drop, List.length_append, looseLine_length] at this ⊢
      omega
    set c₂ : ValkeyClient :=
      { c with
        qbPos := c.qbPos + (looseLine 42 n x).length
        multibulklen := n
        bulklen := -1
        argv := fun _ => []
        argvLen := min (n : Int) 1024
        argvLenSum := 0
        netInputBytesCurrCmd := c.netInputBytesCurrCmd + (looseLine 42 n x).length
        declared := n }
    rw [if_pos (by simp [c₂]; omega), show c₂.multibulklen.toNat = n by simp [c₂]] at h
    -- the client set up for `n` arguments keeps the invariant
    have hinv : ClientInv c₂ := by
      refine ⟨hfits, ?_, ?_, ?_, hmax, fun _ => ⟨?_, ?_, ?_⟩⟩ <;> simp only [c₂, hargc] <;>
        unfold intMax at * <;> omega
    have hsafe := bulkLoop_safe n hinv
    cases hl : bulkLoop n c₂ with
    | error e c₃ =>
      rw [hl] at h
      cases h
    | ok t₂ c₃ =>
      rw [hl] at h hsafe
      obtain ⟨-, hnc⟩ := hsafe
      cases t₂ with
      | ret f =>
        cases h
        exact absurd hnc hflag
      | brk | cont =>
        obtain ⟨hm₃, hrest₃, hargc₃, hargv₃⟩ := finishMultibulk_completed h hflag
        obtain ⟨args, hlen, hread⟩ := bulkLoop_accepts n _ c₃ _ hinv rfl rfl hrep hauth hl
          (fun _ h => nomatch h) hm₃
        have hrest₁ : c₂.rest = R := by
          simp only [c₂, ValkeyClient.rest]
          rw [← List.drop_drop, ← ValkeyClient.rest, hrest, List.drop_left]
        refine ⟨x, args, ?_, ?_, fun i hi => ?_⟩
        · rw [hrest, looseMultibulk, hlen, List.append_assoc, hrest₃, ← hrest₁]
          exact congrArg _ hread.rest
        · rw [hargc₃, hread.argc, hlen]
          simp [hargc]
        · rw [hargv₃, ← hread.argv_new i hi]
          simp [hargc]

/-- What `valkey_parse_command` accepts: when it returns 1 from an idle client, the bytes it
consumed are a loose multibulk frame of the arguments it stored in `argv[0 .. argc)`. -/
theorem valkeyParseCommand_accepts (hi : Idle c) {c' : ValkeyClient}
    (h : valkeyParseCommand c = .ok 1 c') :
    ∃ x args, c.rest = looseMultibulk x args ++ c'.rest ∧ c'.argc = args.length ∧
      ∀ i (hi : i < args.length), c'.argv i = args[i].bytes := by
  unfold valkeyParseCommand at h
  split at h
  · injection h with h₁
    exact absurd h₁ (by decide)
  dsimp only at h
  rw [if_pos hi.reqtype] at h
  by_cases hbyte : byteAt c.querybuf c.qbPos = 42
  · rw [if_pos hbyte, if_pos rfl] at h
    obtain ⟨flag, c₁, hp, hr⟩ := RespM.bind_eq_ok h
    obtain ⟨hflag, rfl⟩ := reportFlag_eq_one hr
    exact @parseMultibulk_accepts { c with reqtype := protoReqMultibulk } hi.multibulklen hi.replicated
      hi.auth flag c₁ hp hflag
  · rw [if_neg hbyte, if_neg (show ¬ protoReqInline = protoReqMultibulk by decide)] at h
    injection h with h₁
    exact absurd h₁ (by decide)

theorem valkeyParseCommand_accepts_get :
    ∃ c', valkeyParseCommand (valkeyClientInit (multibulk [[71, 69, 84], [107]])) = .ok 1 c' ∧
      ∃ x args, (valkeyClientInit (multibulk [[71, 69, 84], [107]])).rest =
        looseMultibulk x args ++ c'.rest ∧ c'.argc = args.length ∧
        ∀ i (hi : i < args.length), c'.argv i = args[i].bytes := by
  obtain ⟨c', h, -⟩ := @valkeyParseCommand_frame (valkeyClientInit (multibulk [[71, 69, 84], [107]]))
    [[71, 69, 84], [107]] [] rfl rfl rfl (by simp) (by simp) (by decide) (by decide) (by decide)
    (by simp [ValkeyClient.rest, valkeyClientInit])
  exact ⟨c', h, valkeyParseCommand_accepts ⟨rfl, rfl, rfl, by simp, by simp, rfl⟩ h⟩

end Call

section Complete

variable {c : ValkeyClient}

/-- The loop on loose arguments followed by `S`: one turn per argument, each stored in order,
whatever bytes stand where the parser skips. -/
theorem bulkLoop_looseArgs {S : List UInt8} (args : List LooseArg) (c : ValkeyClient)
    (hb : c.bulklen = -1) (h0 : 0 ≤ c.argc) (hm : c.multibulklen = args.length)
    (hsum : c.argc + args.length ≤ intMax) (hlen : c.argvLen ≤ intMax)
    (hrest : c.rest = args.flatMap LooseArg.frame ++ S)
    (hargs : ∀ a ∈ args, a.bytes.length ≤ 512 * 1024 * 1024) (hrep : c.isReplicated = false)
    (hauth : c.authRequired = false) :
    ∃ c', bulkLoop args.length c = .ok .brk c' ∧ LoopAccepted c c' args ∧ c'.multibulklen = 0 := by
  induction args generalizing c with
  | nil => exact ⟨c, rfl, LoopAccepted.refl c, by simpa using hm⟩
  | cons a as ih =>
    have hX : c.rest = looseLine 36 a.bytes.length a.lineEnd ++
        (a.bytes ++ [a.endCR, a.endLF] ++ (as.flatMap LooseArg.frame ++ S)) := by
      rw [hrest, List.flatMap_cons, LooseArg.frame]
      simp only [List.append_assoc]
    obtain ⟨c₁, hturn, hst, hcons, -⟩ :=
      bulkTurn_looseLine hb h0 (by simp [hm]) (by rw [hm]; exact hsum) hlen hX (by simp)
        (hargs a (List.mem_cons_self _ _)) hrep hauth
    rw [show (a.bytes ++ [a.endCR, a.endLF] ++ (as.flatMap LooseArg.frame ++ S)).take
      a.bytes.length = a.bytes by simp] at hst
    have hrest₁ : c₁.rest = as.flatMap LooseArg.frame ++ S := by
      rw [hcons.rest_eq, hX, List.drop_append,
        show a.bytes.length + 2 = (a.bytes ++ [a.endCR, a.endLF]).length by simp, List.drop_left]
    obtain ⟨c', hloop, hread, hm'⟩ := ih c₁ hst.bulklen (by rw [hst.argc]; omega)
      (by rw [hst.multibulklen, hm]; simp) (by rw [hst.argc]; simp at hsum; omega) hst.argvLen_le
      hrest₁ (fun a' ha' => hargs a' (List.mem_cons_of_mem _ ha'))
      (by rw [ValkeyClient.isReplicated, hst.readFlags]; exact hrep)
      (by rw [ValkeyClient.authRequired, hst.readFlags]; exact hauth)
    refine ⟨c', ?_, hread.cons h0 (by rw [hrest, hrest₁, List.flatMap_cons, List.append_assoc]) hst,
      hm'⟩
    simp only [List.length_cons, bulkLoop]
    rw [if_neg (by rw [hm]; simp only [List.length_cons]; omega), hturn]
    exact hloop

/-- Every loose frame is accepted: from an idle client whose unread input is a loose frame of one
to `2^30 - 1` arguments of at most 512 MiB each, followed by anything, the call returns 1 with
the arguments in `argv` and the cursor after the frame, whatever bytes stand after each `'\r'`
of a line and after each argument. -/
theorem valkeyParseCommand_looseFrame (hi : Idle c) {x : UInt8} {args : List LooseArg}
    {S : List UInt8} (hn : 0 < args.length) (hsmall : args.length < 2 ^ 30)
    (hargs : ∀ a ∈ args, a.bytes.length ≤ 512 * 1024 * 1024)
    (hrest : c.rest = looseMultibulk x args ++ S) :
    ∃ c', valkeyParseCommand c = .ok 1 c' ∧ c'.rest = S ∧ c'.argc = args.length ∧
      ∀ i (hi : i < args.length), c'.argv i = args[i].bytes := by
  have hline : c.rest = looseLine 42 args.length x ++ (args.flatMap LooseArg.frame ++ S) := by
    rw [hrest, looseMultibulk, List.append_assoc]
  have hstar : c.rest = 42 :: (decimal args.length ++ [13, x] ++ (args.flatMap LooseArg.frame ++ S)) :=
    by rw [hline, looseLine]; rfl
  have hfits : c.qbPos + (looseLine 42 args.length x).length ≤ c.querybuf.length := by
    have := congrArg List.length hline
    simp only [ValkeyClient.rest, List.length_drop, List.length_append, looseLine_length] at this ⊢
    omega
  set c₁ : ValkeyClient :=
    { c with
      reqtype := protoReqMultibulk
      qbPos := c.qbPos + (looseLine 42 args.length x).length
      multibulklen := args.length
      bulklen := -1
      argv := fun _ => []
      argvLen := min (args.length : Int) 1024
      argvLenSum := 0
      netInputBytesCurrCmd := c.netInputBytesCurrCmd + (looseLine 42 args.length x).length
      declared := args.length }
  have hrest₁ : c₁.rest = args.flatMap LooseArg.frame ++ S := by
    simp only [c₁, ValkeyClient.rest]
    rw [← List.drop_drop, ← ValkeyClient.rest, hline, List.drop_left]
  obtain ⟨c₂, hloop, hread, hm₂⟩ := bulkLoop_looseArgs args c₁ rfl (by simp [c₁, hi.argc]) rfl
    (by simp [c₁, hi.argc]; unfold intMax; omega) (by simp only [c₁]; unfold intMax; omega) hrest₁
    hargs hi.replicated hi.auth
  have hargc₂ : c₂.argc = args.length := by rw [hread.argc]; simp [c₁, hi.argc]
  have hpm : parseMultibulk { c with reqtype := protoReqMultibulk } = finishMultibulk c₂ := by
    rw [parseMultibulk, if_pos hi.multibulklen,
      @readMultibulkLen_looseLine { c with reqtype := protoReqMultibulk } args.length x _ hi.argc
        hline hn (by unfold intMax; omega) hi.auth]
    dsimp only
    rw [if_pos (by simp [c₁]; omega), show c₁.multibulklen.toNat = args.length by simp [c₁], hloop]
  rw [valkeyParseCommand_of_star hi.reqtype hstar, bind_of_ok (hpm.trans
    (finishMultibulk_of_fits hm₂ (by rw [hargc₂]; omega) (by rw [hargc₂]; unfold intMax; omega))),
    reportFlag_completed]
  refine ⟨_, rfl, ?_, hargc₂, fun i hk => ?_⟩
  · show c₂.rest = S
    exact List.append_cancel_left (hrest₁.symm.trans hread.rest).symm
  · show c₂.argv i = _
    rw [← hread.argv_new i hk]
    simp [c₁, hi.argc]

theorem valkeyParseCommand_looseFrame_noCRLF :
    let args : List LooseArg := [⟨[107], 88, 88, 88⟩]
    let c := valkeyClientInit (looseMultibulk 88 args)
    Idle c ∧ 0 < args.length ∧ args.length < 2 ^ 30 ∧
      (∀ a ∈ args, a.bytes.length ≤ 512 * 1024 * 1024) ∧ c.rest = looseMultibulk 88 args ++ [] ∧
      ∃ c', valkeyParseCommand c = .ok 1 c' ∧ c'.rest = [] ∧ c'.argc = args.length ∧
        ∀ i (hi : i < args.length), c'.argv i = args[i].bytes :=
  have hidle : Idle (valkeyClientInit (looseMultibulk 88 [⟨[107], 88, 88, 88⟩])) :=
    ⟨rfl, rfl, rfl, by simp, by simp, rfl⟩
  have hrest : (valkeyClientInit (looseMultibulk 88 [⟨[107], 88, 88, 88⟩])).rest =
      looseMultibulk 88 [⟨[107], 88, 88, 88⟩] ++ [] := by
    simp [ValkeyClient.rest, valkeyClientInit]
  ⟨hidle, by decide, by decide, by decide, hrest,
    valkeyParseCommand_looseFrame hidle (by decide) (by decide) (by decide) hrest⟩

end Complete

end ProtocolBench.Resp
