import ProtocolBench.Resp.Accepts
import ProtocolBench.Resp.Stop

/-!
Resumption. A call of `valkey_parse_command` that returns 0 for more input leaves the client in
a state from which the parse goes on when bytes are appended to `querybuf`: the next call does
what the first would have done had those bytes been there from the start. This is what lets a
server call the parser after each `read`, on a command split anywhere.

Each part of `parseMultibulk` reads the buffer only at and after the cursor and only as far as a
complete line or argument, so a part that goes on ends alike with more bytes appended
(`GoesOn`). The buffer is the one thing a part may change in a way more input does not undo:
`sdsrange` after a big length line and the zero-copy capture cut it at its front. Each part keeps
the buffer or leaves a suffix of it, so a call that ends with the buffer it started with kept it
at every step, and resumes (`parseMultibulk_resumes`). The cut frames of `Resp/Stop.lean` are
such calls.
-/

namespace ProtocolBench.Resp
open RespM

variable {c c' : ValkeyClient}

namespace ValkeyClient

@[simp] theorem appendInput_querybuf (c : ValkeyClient) (M : List UInt8) :
    (c.appendInput M).querybuf = c.querybuf ++ M := rfl

@[simp] theorem appendInput_qbPos (c : ValkeyClient) (M : List UInt8) :
    (c.appendInput M).qbPos = c.qbPos := rfl

@[simp] theorem appendInput_multibulklen (c : ValkeyClient) (M : List UInt8) :
    (c.appendInput M).multibulklen = c.multibulklen := rfl

@[simp] theorem appendInput_bulklen (c : ValkeyClient) (M : List UInt8) :
    (c.appendInput M).bulklen = c.bulklen := rfl

theorem rest_appendInput {M : List UInt8} (h : c.qbPos ≤ c.querybuf.length) :
    (c.appendInput M).rest = c.rest ++ M :=
  List.drop_append_of_le_length h

theorem qbPos_le_of_rest {x : UInt8} {R : List UInt8} (h : c.rest = x :: R) :
    c.qbPos ≤ c.querybuf.length := by
  by_contra hlt
  rw [rest, List.drop_eq_nil_of_le (by omega)] at h
  cases h

end ValkeyClient

/-- A buffer that each of two parts keeps or cuts, and that ends as it began, was kept by both. -/
theorem eq_of_suffix_of_suffix {a b d : List UInt8} (h₁ : b <:+ a) (h₂ : d <:+ b) (h : d = a) :
    b = a :=
  h₁.eq_of_length_le (h ▸ h₂.length_le)

theorem slice_append {s : List UInt8} {pos n : Nat} (h : n = 0 ∨ pos + n ≤ s.length)
    (M : List UInt8) : slice (s ++ M) pos n = slice s pos n := by
  rcases h with rfl | h
  · simp [slice]
  · rw [slice, slice, List.drop_append_of_le_length (by omega),
      List.take_append_of_le_length (by simp; omega)]

/-- A part of the parse that goes on, as resumption needs it: the flags kept, the buffer kept or
cut at its front, and, when it is kept, the same step on the buffer with more bytes appended. -/
structure GoesOn (m : RespM Turn) (c c' : ValkeyClient) : Prop where
  readFlags : c'.readFlags = c.readFlags
  suffix : c'.querybuf <:+ c.querybuf
  append : c'.querybuf = c.querybuf → ∀ M, m (c.appendInput M) = .ok .cont (c'.appendInput M)

theorem GoesOn.isReplicated {m : RespM Turn} (h : GoesOn m c c') :
    c'.isReplicated = c.isReplicated := by
  rw [ValkeyClient.isReplicated, h.readFlags, ← ValkeyClient.isReplicated]

theorem GoesOn.authRequired {m : RespM Turn} (h : GoesOn m c c') :
    c'.authRequired = c.authRequired := by
  rw [ValkeyClient.authRequired, h.readFlags, ← ValkeyClient.authRequired]

section Parts

/-- `growArgv` sets `argv_len` and reads no byte of the buffer. -/
theorem growArgv_ok {u : Unit} (h : growArgv c = .ok u c') (M : List UInt8) :
    ∃ len, c' = { c with argvLen := len } ∧ growArgv (c.appendInput M) = .ok u (c'.appendInput M) := by
  unfold growArgv intAdd ValkeyClient.appendInput at *
  dsimp only at *
  split_ifs at h ⊢ <;> cases h <;> exact ⟨_, rfl, rfl⟩

theorem storeArg_ok {obj : List UInt8} {u : Unit} (h : storeArg obj c = .ok u c') (M : List UInt8) :
    c' = { c with argv := Function.update c.argv c.argc.toNat obj, argc := c.argc + 1 } ∧
      storeArg obj (c.appendInput M) = .ok u (c'.appendInput M) := by
  unfold storeArg ValkeyClient.appendInput at *
  dsimp only at *
  split_ifs at h ⊢
  cases h
  exact ⟨rfl, rfl⟩

/-- `takeBulk` captures the buffer, or copies the argument at the cursor and keeps the buffer;
the copy reads the same bytes with more appended. -/
theorem takeBulk_ok {u : Unit} (h : takeBulk c = .ok u c') (M : List UInt8) :
    c'.readFlags = c.readFlags ∧ c'.multibulklen = c.multibulklen ∧
    (c.capturesBuffer ∧ c'.querybuf = [] ∨ ¬ c.capturesBuffer ∧ c'.querybuf = c.querybuf ∧
      (¬ (c.appendInput M).capturesBuffer →
        c.bulklen.toNat = 0 ∨ c.qbPos + c.bulklen.toNat ≤ c.querybuf.length →
        takeBulk (c.appendInput M) = .ok u (c'.appendInput M))) := by
  unfold takeBulk at *
  split_ifs at h with hcap
  · split at h
    next c₁ hs =>
      cases h
      obtain ⟨rfl, -⟩ := storeArg_ok hs M
      exact ⟨rfl, rfl, .inl ⟨hcap, rfl⟩⟩
    next => cases h
  · split at h
    next c₁ hs =>
      cases h
      obtain ⟨rfl, hs'⟩ := storeArg_ok hs M
      refine ⟨rfl, rfl, .inr ⟨hcap, rfl, fun hcap' hroom => ?_⟩⟩
      rw [if_neg hcap']
      dsimp only [ValkeyClient.appendInput] at hs' ⊢
      rw [slice_append hroom, hs']
    next => cases h

/-- The argument: it waits with the client as it was, or it stores the argument and goes on. -/
theorem readBulkArg_cases {t : Turn} (h : readBulkArg c = .ok t c') :
    (t = .brk ∧ c' = c) ∨
      (t = .cont ∧ GoesOn readBulkArg c c' ∧ c'.multibulklen = c.multibulklen - 1) := by
  unfold readBulkArg at h
  split_ifs at h with hlt
  · cases h
    exact .inl ⟨rfl, rfl⟩
  split at h
  next c₂ hbind =>
    cases h
    obtain ⟨u, c₁, hg, ht⟩ := RespM.bind_eq_ok hbind
    obtain ⟨len, rfl, -⟩ := growArgv_ok hg []
    obtain ⟨hflags, hm, hbuf⟩ := takeBulk_ok ht []
    refine .inr ⟨rfl, ⟨hflags, ?_, fun hq M => ?_⟩, hm ▸ rfl⟩
    · rcases hbuf with ⟨-, hq⟩ | ⟨-, hq, -⟩ <;> rw [hq]
      exact List.nil_suffix
    simp only [ValkeyClient.unread, not_lt] at hlt
    rcases takeBulk_ok ht M with ⟨-, -, ⟨hcap, hq'⟩ | ⟨hcap, -, happ⟩⟩
    · -- a capture leaves an empty buffer, and the buffer held the argument
      have h0 : c.querybuf = [] := hq.symm.trans hq'
      have hbig := hcap.2.2.1
      simp only [h0, List.length_nil] at hlt
      dsimp only at hbig
      omega
    have hcap' : ¬ ({ c with argvLen := len }.appendInput M).capturesBuffer := by
      rintro ⟨h1, h2, h3, h4⟩
      refine hcap ⟨h1, h2, h3, ?_⟩
      simp only [ValkeyClient.appendInput_querybuf, ValkeyClient.appendInput_qbPos,
        ValkeyClient.appendInput_bulklen, List.length_append] at h2 h3 h4
      dsimp only at h2 h3 h4 ⊢
      omega
    obtain ⟨-, -, hg'⟩ := growArgv_ok hg M
    unfold readBulkArg
    rw [if_neg (by simp only [ValkeyClient.unread, ValkeyClient.appendInput_querybuf,
        ValkeyClient.appendInput_qbPos, ValkeyClient.appendInput_bulklen, List.length_append]; omega),
      bind_of_ok hg', happ hcap' (by dsimp only; omega)]
    rfl
  next => cases h

/-- The length line returns or breaks with the client as it was. -/
theorem readBulkLen_stays {t : Turn} (h : readBulkLen c = .ok t c') (ht : t ≠ .cont) : c' = c := by
  unfold readBulkLen at h
  split at h
  · cases h; rfl
  next nl _ =>
  by_cases hinc : c.lineIncomplete nl
  · rw [if_pos hinc] at h
    cases h; rfl
  by_cases hbyte : byteAt c.querybuf c.qbPos ≠ 36
  · rw [if_neg hinc, if_pos hbyte] at h
    cases h; rfl
  rw [if_neg hinc, if_neg hbyte] at h
  dsimp only at h
  split at h
  · cases h; rfl
  next ll _ =>
  by_cases hbad : ll < 0 ∨ (!c.isReplicated ∧ ll > 512 * 1024 * 1024)
  · rw [if_pos hbad] at h
    cases h; rfl
  by_cases hbig : ll > 16384 ∧ c.authRequired
  · rw [if_neg hbad, if_pos hbig] at h
    cases h; rfl
  rw [if_neg hbad, if_neg hbig] at h
  cases h
  exact absurd rfl ht

theorem readBulkLen_cases (hrep : c.isReplicated = false) (hauth : c.authRequired = false)
    {t : Turn} (h : readBulkLen c = .ok t c') :
    (t ≠ .cont ∧ c' = c) ∨
      (t = .cont ∧ GoesOn readBulkLen c c' ∧ c'.multibulklen = c.multibulklen ∧
        0 ≤ c'.bulklen) := by
  by_cases ht : t = .cont
  swap
  · exact .inl ⟨ht, readBulkLen_stays h ht⟩
  subst ht
  obtain ⟨L, x, X, hL, hrest⟩ := readBulkLen_cont hrep h
  rw [readBulkLen_looseLine hrest hL hrep hauth] at h
  cases h
  have hlen := congrArg List.length hrest
  simp only [ValkeyClient.rest, List.length_drop, List.length_append] at hlen
  by_cases hbig : protoMbulkBigArg ≤ L ∧ X.length ≤ L + 2
  · -- `sdsrange`: the buffer is cut to what follows the line, and is no longer what it was
    rw [if_pos hbig]
    refine .inr ⟨rfl, ⟨rfl, (List.suffix_append (looseLine 36 L x) X).trans ?_, fun hq => ?_⟩, rfl,
      by simp⟩
    · rw [← hrest]
      exact List.drop_suffix _ _
    · have := congrArg List.length hq
      simp only [looseLine_length] at hlen this
      omega
  · rw [if_neg hbig]
    refine .inr ⟨rfl, ⟨rfl, List.suffix_refl _, fun _ M => ?_⟩, rfl, by simp⟩
    rw [@readBulkLen_looseLine (c.appendInput M) L x (X ++ M)
      (by rw [ValkeyClient.rest_appendInput (ValkeyClient.qbPos_le_of_rest hrest), hrest,
        List.append_assoc]) hL hrep hauth,
      if_neg (fun h => hbig ⟨h.1, by simp only [List.length_append] at h; omega⟩)]
    rfl

/-- The count line returns 0 only with the client as it was. -/
theorem readMultibulkLen_stays {f : Nat} (h : readMultibulkLen c = .ok (.ret f) c') (hf : f = 0) :
    c' = c := by
  unfold readMultibulkLen at h
  by_cases hargc : c.argc ≠ 0
  · rw [if_pos hargc] at h
    cases h
  rw [if_neg hargc] at h
  cases hcr : findCR c.querybuf c.qbPos with
  | none =>
    rw [hcr] at h
    cases h
    rfl
  | some nl =>
  rw [hcr] at h
  dsimp only at h
  by_cases hinc : c.lineIncomplete nl
  · rw [if_pos hinc] at h
    cases h
    rfl
  by_cases hbyte : byteAt c.querybuf c.qbPos ≠ 42
  · rw [if_neg hinc, if_pos hbyte] at h
    cases h
  rw [if_neg hinc, if_neg hbyte] at h
  split at h
  · cases h
    rfl
  split_ifs at h <;> cases h <;> first | rfl | exact absurd hf (by decide)

theorem readMultibulkLen_cases (hauth : c.authRequired = false) {t : Turn}
    (h : readMultibulkLen c = .ok t c') :
    (∃ f, t = .ret f ∧ (f = 0 → c' = c)) ∨
      (t = .cont ∧ GoesOn readMultibulkLen c c' ∧ 0 < c'.multibulklen) := by
  rcases readMultibulkLen_ok h with ⟨f, rfl, -⟩ | ⟨rfl, n, x, R, hn, hmax, hargc, hrest⟩
  · exact .inl ⟨f, rfl, readMultibulkLen_stays h⟩
  rw [readMultibulkLen_looseLine hargc hrest hn hmax hauth] at h
  cases h
  refine .inr ⟨rfl, ⟨rfl, List.suffix_refl _, fun _ M => ?_⟩, by simpa using hn⟩
  rw [@readMultibulkLen_looseLine (c.appendInput M) n x (R ++ M) hargc
    (by rw [ValkeyClient.rest_appendInput (ValkeyClient.qbPos_le_of_rest hrest), hrest,
      List.append_assoc]) hn hmax hauth]
  rfl

/-- A turn of the loop: the buffer kept or cut; a turn that goes on stores one argument; a turn
that stops with the buffer kept either changed nothing or read a length line, and the turn after
more bytes arrive is the turn it would have been. -/
theorem bulkTurn_cases (hrep : c.isReplicated = false) (hauth : c.authRequired = false) {t : Turn}
    (h : bulkTurn c = .ok t c') :
    c'.querybuf <:+ c.querybuf ∧
      (t = .cont → GoesOn bulkTurn c c' ∧ c'.multibulklen = c.multibulklen - 1) ∧
      (t ≠ .cont → c'.querybuf = c.querybuf → c'.multibulklen = c.multibulklen ∧
        ∀ M, bulkTurn (c.appendInput M) = bulkTurn (c'.appendInput M)) := by
  by_cases hb : c.bulklen = -1
  · rw [bulkTurn, if_pos hb] at h
    split at h
    next c₂ hlen =>
      obtain ⟨hne, -⟩ | ⟨-, hg₁, hm₁, hb₁⟩ := readBulkLen_cases hrep hauth hlen
      · exact absurd rfl hne
      have hturn : ∀ M, c₂.querybuf = c.querybuf →
          bulkTurn (c.appendInput M) = readBulkArg (c₂.appendInput M) := fun M hq => by
        rw [bulkTurn, ValkeyClient.appendInput_bulklen, if_pos hb, hg₁.append hq M]
      obtain ⟨rfl, rfl⟩ | ⟨rfl, hg₂, hm₂⟩ := readBulkArg_cases h
      · -- the length is read, the argument has not arrived
        refine ⟨hg₁.suffix, fun h => (by cases h), fun _ hq => ⟨hm₁, fun M => ?_⟩⟩
        rw [hturn M hq, bulkTurn, ValkeyClient.appendInput_bulklen, if_neg (by omega)]
      · refine ⟨hg₂.suffix.trans hg₁.suffix, fun _ => ⟨⟨hg₂.readFlags.trans hg₁.readFlags,
          hg₂.suffix.trans hg₁.suffix, fun hq M => ?_⟩, by rw [hm₂, hm₁]⟩, fun h => absurd rfl h⟩
        have hq₂ := eq_of_suffix_of_suffix hg₁.suffix hg₂.suffix hq
        rw [hturn M hq₂]
        exact hg₂.append (hq.trans hq₂.symm) M
    next hr =>
      obtain ⟨hne, rfl⟩ | ⟨rfl, -⟩ := readBulkLen_cases hrep hauth h
      · exact ⟨List.suffix_refl _, fun h => absurd h hne, fun _ _ => ⟨rfl, fun _ => rfl⟩⟩
      · exact absurd h (hr _)
  · rw [bulkTurn, if_neg hb] at h
    obtain ⟨rfl, rfl⟩ | ⟨rfl, hg, hm⟩ := readBulkArg_cases h
    · exact ⟨List.suffix_refl _, fun h => (by cases h), fun _ _ => ⟨rfl, fun _ => rfl⟩⟩
    · refine ⟨hg.suffix, fun _ => ⟨⟨hg.readFlags, hg.suffix, fun hq M => ?_⟩, hm⟩,
        fun h => absurd rfl h⟩
      rw [bulkTurn, ValkeyClient.appendInput_bulklen, if_neg hb]
      exact hg.append hq M

end Parts

section Loop

/-- The loop `while (c->multibulklen)` with `n` turns left. When it ends with the buffer it began
with, it stopped with `k` turns left, after `n - k` arguments, and with more bytes appended it
runs the same turns and arrives at the state it stopped in, with `k` turns left. -/
theorem bulkLoop_resumes (n : Nat) (hrep : c.isReplicated = false) (hauth : c.authRequired = false)
    {t : Turn} (h : bulkLoop n c = .ok t c') :
    c'.querybuf <:+ c.querybuf ∧
      (c'.querybuf = c.querybuf → ∃ k ≤ n, (t ≠ .brk → 0 < k) ∧
        c'.multibulklen = c.multibulklen - (n - k : Nat) ∧
        ∀ M, bulkLoop n (c.appendInput M) = bulkLoop k (c'.appendInput M)) := by
  induction n generalizing c with
  | zero =>
    cases h
    exact ⟨List.suffix_refl _, fun _ => ⟨0, le_rfl, fun h => absurd rfl h, by simp, fun _ => rfl⟩⟩
  | succ n ih =>
    simp only [bulkLoop] at h
    by_cases hm : c.multibulklen = 0
    · rw [if_pos hm] at h
      cases h
      exact ⟨List.suffix_refl _, fun _ => ⟨n + 1, le_rfl, fun h => absurd rfl h, by simp,
        fun _ => rfl⟩⟩
    rw [if_neg hm] at h
    split at h
    next c₂ hturn =>
      -- a stored argument, then the rest of the run
      obtain ⟨hg, hm₂⟩ := (bulkTurn_cases hrep hauth hturn).2.1 rfl
      obtain ⟨hsuf, hres⟩ := ih (hg.isReplicated.trans hrep) (hg.authRequired.trans hauth) h
      refine ⟨hsuf.trans hg.suffix, fun hq => ?_⟩
      have hq₂ := eq_of_suffix_of_suffix hg.suffix hsuf hq
      obtain ⟨k, hk, hpos, hmk, hloop⟩ := hres (hq.trans hq₂.symm)
      refine ⟨k, by omega, hpos, by rw [hmk, hm₂]; omega, fun M => ?_⟩
      simp only [bulkLoop, ValkeyClient.appendInput_multibulklen]
      rw [if_neg hm, hg.append hq₂ M]
      exact hloop M
    next hr =>
      -- the turn that stops the loop
      obtain ⟨hsuf, -, hwait⟩ := bulkTurn_cases hrep hauth h
      have ht : t ≠ .cont := fun e => hr c' (e ▸ h)
      refine ⟨hsuf, fun hq => ?_⟩
      obtain ⟨hm', hturn⟩ := hwait ht hq
      refine ⟨n + 1, le_rfl, fun _ => Nat.succ_pos n, by simp [hm'], fun M => ?_⟩
      simp only [bulkLoop, ValkeyClient.appendInput_multibulklen, hm', hturn M, if_neg hm]

end Loop

section Call

/-- The completion returns 0 only while arguments are to come, with the client as it was. -/
theorem finishMultibulk_zero (h : finishMultibulk c = .ok 0 c') : c.multibulklen ≠ 0 ∧ c' = c := by
  unfold finishMultibulk intMul at h
  split_ifs at h with hm
  · split at h <;> cases h
  · cases h
    exact ⟨hm, rfl⟩

/-- With a command in progress `parseMultibulk` goes straight to the loop: two such clients whose
loops end alike parse alike. -/
theorem parseMultibulk_congr_loop {d e : ValkeyClient} (hd : 0 < d.multibulklen)
    (he : 0 < e.multibulklen)
    (h : bulkLoop d.multibulklen.toNat d = bulkLoop e.multibulklen.toNat e) :
    parseMultibulk d = parseMultibulk e := by
  simp only [parseMultibulk, if_neg hd.ne', if_neg he.ne', if_pos hd, if_pos he, h]

/-- Once the count line is read, the parse is that of the state it leaves. -/
theorem parseMultibulk_of_header {c₂ : ValkeyClient} (hm : c.multibulklen = 0)
    (h : readMultibulkLen c = .ok .cont c₂) (hm₂ : 0 < c₂.multibulklen) :
    parseMultibulk c = parseMultibulk c₂ := by
  simp only [parseMultibulk, if_pos hm, h, if_neg hm₂.ne', if_pos hm₂]

theorem parseMultibulk_resumes_inProgress (hm : 0 < c.multibulklen)
    (hrep : c.isReplicated = false) (hauth : c.authRequired = false)
    (h : parseMultibulk c = .ok 0 c') :
    c'.querybuf <:+ c.querybuf ∧
      (c'.querybuf = c.querybuf →
        ∀ M, parseMultibulk (c'.appendInput M) = parseMultibulk (c.appendInput M)) := by
  simp only [parseMultibulk, if_neg hm.ne', if_pos hm] at h
  obtain ⟨t, hloop, hwait⟩ : ∃ t, bulkLoop c.multibulklen.toNat c = .ok t c' ∧
      (t ≠ .brk ∨ c'.multibulklen ≠ 0) := by
    split at h
    next hl =>
      cases h
      exact ⟨_, hl, .inl (by simp)⟩
    next _ _ _ hl =>
      obtain ⟨hm', rfl⟩ := finishMultibulk_zero h
      exact ⟨_, hl, .inr hm'⟩
    next => cases h
  obtain ⟨hsuf, hres⟩ := bulkLoop_resumes _ hrep hauth hloop
  refine ⟨hsuf, fun hq M => ?_⟩
  obtain ⟨k, hk, hpos, hmk, heq⟩ := hres hq
  rw [Nat.cast_sub hk, Int.toNat_of_nonneg hm.le] at hmk
  -- the loop stopped with `k` turns left and `k` arguments to come
  have hk' : c'.multibulklen = k ∧ 0 < k := by
    rcases hwait with h | h
    · have := hpos h
      omega
    · omega
  exact parseMultibulk_congr_loop (by simp only [ValkeyClient.appendInput_multibulklen]; omega)
    (by simpa using hm)
    (by simp only [ValkeyClient.appendInput_multibulklen, hk'.1, Int.toNat_ofNat, heq])

/-- `parseMultibulk` that returns 0 and ends with the buffer it began with: from the state it
leaves, the parse of the buffer with more bytes appended is the parse from the state it began in,
with the same bytes appended. -/
theorem parseMultibulk_resumes (hrep : c.isReplicated = false) (hauth : c.authRequired = false)
    (h : parseMultibulk c = .ok 0 c') (hq : c'.querybuf = c.querybuf) (M : List UInt8) :
    parseMultibulk (c'.appendInput M) = parseMultibulk (c.appendInput M) := by
  rcases lt_trichotomy c.multibulklen 0 with hneg | hzero | hpos
  · simp only [parseMultibulk, if_neg hneg.ne, if_neg (not_lt.2 hneg.le)] at h
    cases h
  · cases hline : readMultibulkLen c with
    | error e c₂ =>
      simp only [parseMultibulk, if_pos hzero, hline] at h
      cases h
    | ok t c₂ =>
      obtain ⟨f, rfl, hstay⟩ | ⟨rfl, hg, hm₂⟩ := readMultibulkLen_cases hauth hline
      · simp only [parseMultibulk, if_pos hzero, hline] at h
        cases h
        rw [hstay rfl]
      rw [parseMultibulk_of_header hzero hline hm₂] at h
      obtain ⟨hsuf, hres⟩ := parseMultibulk_resumes_inProgress hm₂ (hg.isReplicated.trans hrep)
        (hg.authRequired.trans hauth) h
      have hq₂ := eq_of_suffix_of_suffix hg.suffix hsuf hq
      rw [hres (hq.trans hq₂.symm) M]
      exact (@parseMultibulk_of_header (c.appendInput M) _ hzero (hg.append hq₂ M) hm₂).symm
  · exact (parseMultibulk_resumes_inProgress hpos hrep hauth h).2 hq M

/-- A call with a multibulk request in progress goes straight to `parseMultibulk`. -/
theorem valkeyParseCommand_of_inProgress (h : c.reqtype = protoReqMultibulk) :
    valkeyParseCommand c = (parseMultibulk >>= reportFlag) c := by
  have h0 : c.reqtype ≠ 0 := by rw [h]; decide
  rw [valkeyParseCommand, if_neg fun h' => h0 h'.1]
  dsimp only
  rw [if_neg h0, if_pos h]

/-- A small command cut after any of its bytes, as a `read` can leave it, from an idle client:
the call returns 0, and from the state it leaves a call after more bytes arrive does what the
call would have done had they arrived with the first ones. When they are the rest of the frame
and anything after it, that call returns 1 with the command's arguments and the cursor after the
frame. -/
theorem valkeyParseCommand_cutFrameResumes {args : List (List UInt8)} {k : Nat} (hi : Idle c)
    (hsmall : SmallCommand args) (hk0 : 0 < k) (hk : k < (multibulk args).length)
    (hrest : c.rest = (multibulk args).take k) :
    ∃ c₁, valkeyParseCommand c = .ok 0 c₁ ∧
      (∀ M, valkeyParseCommand (c₁.appendInput M) = valkeyParseCommand (c.appendInput M)) ∧
      ∀ S, ∃ c₂, valkeyParseCommand (c₁.appendInput ((multibulk args).drop k ++ S)) = .ok 1 c₂ ∧
        c₂.argc = args.length ∧ (∀ i (h : i < args.length), c₂.argv i = args[i]) ∧
        c₂.rest = S := by
  obtain ⟨k', rfl⟩ : ∃ k', k = k' + 1 := ⟨k - 1, by omega⟩
  have hstar : c.rest = 42 :: (decimal args.length ++ [13, 10] ++ args.flatMap bulk).take k' := by
    rw [hrest, multibulk, lengthLine]
    simp
  have hpos := ValkeyClient.qbPos_le_of_rest hstar
  obtain ⟨c', hpm, hq, -, hreq, -⟩ :=
    @parseMultibulk_truncated { c with reqtype := protoReqMultibulk } args _ hi.multibulklen hi.argc
      hi.replicated hi.auth hsmall hk hrest
  rw [valkeyParseCommand_of_star hi.reqtype hstar, bind_of_ok hpm, reportFlag_zero, Nat.or_zero]
  have hres : ∀ M, valkeyParseCommand (c'.appendInput M) = valkeyParseCommand (c.appendInput M) := by
    intro M
    rw [@valkeyParseCommand_of_inProgress (c'.appendInput M) hreq,
      @valkeyParseCommand_of_star (c.appendInput M) _ hi.reqtype
        (by rw [ValkeyClient.rest_appendInput hpos, hstar]; rfl)]
    show EStateM.bind _ _ _ = EStateM.bind _ _ _
    unfold EStateM.bind
    rw [@parseMultibulk_resumes { c with reqtype := protoReqMultibulk } c' hi.replicated hi.auth
      hpm hq M]
    rfl
  refine ⟨c', rfl, hres, fun S => ?_⟩
  -- with the rest of the frame in, the buffer holds the whole frame
  obtain ⟨c₂, h₂, hargc, hargv, hrest₂, -⟩ :=
    @valkeyParseCommand_frame (c.appendInput ((multibulk args).drop (k' + 1) ++ S)) args S
      hi.multibulklen hi.argc hi.reqtype hi.replicated hi.auth hsmall.1 hsmall.2.1
      (fun a ha => by have := hsmall.2.2 a ha; unfold protoMbulkBigArg at this; omega)
      (by rw [ValkeyClient.rest_appendInput hpos, hrest, ← List.append_assoc, List.take_append_drop])
  exact ⟨c₂, (hres _).trans h₂, hargc, hargv, hrest₂⟩

/-- `GET k` cut inside the length line of `k`, then the rest of the frame and `PING` arriving. -/
theorem valkeyParseCommand_cutFrameResumes_getPing :
    ∃ c₁, valkeyParseCommand (valkeyClientInit ((multibulk [[71, 69, 84], [107]]).take 15)) =
        .ok 0 c₁ ∧
      ∃ c₂, valkeyParseCommand
          (c₁.appendInput ((multibulk [[71, 69, 84], [107]]).drop 15 ++ multibulk [[80, 73, 78, 71]])) =
          .ok 1 c₂ ∧ c₂.argc = 2 ∧ c₂.argv 0 = [71, 69, 84] ∧ c₂.argv 1 = [107] ∧
        c₂.rest = multibulk [[80, 73, 78, 71]] := by
  have hlen : 15 < (multibulk [[71, 69, 84], [107]]).length := by
    simp [multibulk, decimal_of_lt]
  obtain ⟨c₁, h₁, -, hS⟩ := @valkeyParseCommand_cutFrameResumes
    (valkeyClientInit ((multibulk [[71, 69, 84], [107]]).take 15)) [[71, 69, 84], [107]] 15
    ⟨rfl, rfl, rfl, by simp, by simp, rfl⟩ (by decide) (by decide) hlen rfl
  obtain ⟨c₂, h₂, hargc, hargv, hrest⟩ := hS (multibulk [[80, 73, 78, 71]])
  exact ⟨c₁, h₁, c₂, h₂, hargc, hargv 0 (by decide), hargv 1 (by decide), hrest⟩

end Call

end ProtocolBench.Resp
