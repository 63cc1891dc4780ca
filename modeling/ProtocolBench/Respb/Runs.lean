import ProtocolBench.Respb.Bytes

/-!
What the parser's steps do on well-formed input. `Runs m F a g w` says that from every state whose
buffer holds `F` at the cursor, inside `buffer_len`, the step `m` returns `a`, consumes exactly
`F`, changes the record's fields other than `args` by `g`, and leaves each slot as `w` says.

One lemma per reading step, closure under `>>=` and `if`, and one lemma for the counted loops,
by induction on the list of fields they read. The framing and round-trip theorems are assembled
from these.
-/

namespace ProtocolBench.Respb
open ParseM

/-- The bytes a run stores per slot; `none` leaves the slot as it was. -/
abbrev Writes := Nat → Option (List UInt8)

/-- No slot written. -/
def Writes.none : Writes := fun _ => Option.none

/-- Slot `k` written with `d`. -/
def Writes.one (k : Nat) (d : List UInt8) : Writes := fun j => if j = k then some d else Option.none

/-- `w₁`, then `w₂`: a later write wins. -/
def Writes.then (w₁ w₂ : Writes) : Writes := fun k => (w₂ k).or (w₁ k)

/-- Slot `k` of `t`, against `s`, is as `o` says. -/
def SlotAfter (s t : ParseState) (k : Fin respbMaxArgs) : Option (List UInt8) → Prop
  | Option.none => t.assigned k = s.assigned k ∧ t.cmd.args k = s.cmd.args k
  | some d => t.assigned k = true ∧ argBytes t.buffer (t.cmd.args k) = d

structure Runs {α : Type} (m : ParseM α) (F : List UInt8) (a : α)
    (g : RespbCommand → RespbCommand) (w : Writes) : Prop where
  run : ∀ s : ParseState, BytesAt s.buffer s.pos F → s.pos + F.length ≤ s.bufferLen →
    ∃ t, m s = .ok a t ∧ t.pos = s.pos + F.length ∧ t.buffer = s.buffer ∧
      t.bufferLen = s.bufferLen ∧
      (∀ args, { t.cmd with args := args } = g { s.cmd with args := args }) ∧
      ∀ k, SlotAfter s t k (w k)

@[simp] theorem Writes.then_none (w : Writes) : w.then Writes.none = w := rfl

@[simp] theorem Writes.none_then (w : Writes) : Writes.none.then w = w := by
  funext k
  simp only [Writes.then, Writes.none, Option.or_none]

@[simp] theorem Writes.then_assoc (w₁ w₂ w₃ : Writes) :
    (w₁.then w₂).then w₃ = w₁.then (w₂.then w₃) := by
  funext k
  simp only [Writes.then, Option.or_assoc]

theorem Runs.congr {α : Type} {m : ParseM α} {F F' : List UInt8} {a : α}
    {g g' : RespbCommand → RespbCommand} {w w' : Writes} (h : Runs m F a g w) (hF : F = F')
    (hg : g = g') (hw : w = w') : Runs m F' a g' w' := by
  subst hF hg hw
  exact h

section Steps

variable {α β : Type}

theorem runs_pure (a : α) : Runs (pure a : ParseM α) [] a id Writes.none :=
  ⟨fun s _ _ => ⟨s, rfl, rfl, rfl, rfl, fun _ => rfl, fun _ => ⟨rfl, rfl⟩⟩⟩

theorem runs_bind {x : ParseM α} {f : α → ParseM β} {F₁ F₂ : List UInt8} {a : α} {b : β}
    {g₁ g₂ : RespbCommand → RespbCommand} {w₁ w₂ : Writes} (hx : Runs x F₁ a g₁ w₁)
    (hf : Runs (f a) F₂ b g₂ w₂) : Runs (x >>= f) (F₁ ++ F₂) b (g₂ ∘ g₁) (w₁.then w₂) := by
  refine ⟨fun s hF hlen => ?_⟩
  rw [bytesAt_append] at hF
  rw [List.length_append] at hlen
  obtain ⟨u, hxu, hpu, hbu, hlu, hcu, hsu⟩ := hx.run s hF.1 (by omega)
  obtain ⟨t, hft, hpt, hbt, hlt, hct, hst⟩ :=
    hf.run u (by rw [hbu, hpu]; exact hF.2) (by omega)
  refine ⟨t, by rw [bind_apply, hxu]; exact hft, by rw [hpt, hpu, List.length_append]; omega,
    hbt.trans hbu, hlt.trans hlu, fun args => by rw [hct, hcu]; rfl, fun k => ?_⟩
  have h₁ := hsu k
  have h₂ := hst k
  simp only [Writes.then]
  cases hw₂ : w₂ k with
  | some d => rw [hw₂] at h₂; exact h₂
  | none =>
    rw [hw₂] at h₂
    obtain ⟨ha, hk⟩ := h₂
    cases hw₁ : w₁ k with
    | none => rw [hw₁] at h₁; exact ⟨ha.trans h₁.1, hk.trans h₁.2⟩
    | some d => rw [hw₁] at h₁; exact ⟨ha.trans h₁.1, by rw [hk, hbt]; exact h₁.2⟩

theorem runs_ite_pos {c : Prop} [Decidable c] {m₁ m₂ : ParseM α} {F : List UInt8} {a : α}
    {g : RespbCommand → RespbCommand} {w : Writes} (hc : c) (h : Runs m₁ F a g w) :
    Runs (if c then m₁ else m₂) F a g w := by
  rwa [if_pos hc]

theorem runs_ite_neg {c : Prop} [Decidable c] {m₁ m₂ : ParseM α} {F : List UInt8} {a : α}
    {g : RespbCommand → RespbCommand} {w : Writes} (hc : ¬c) (h : Runs m₂ F a g w) :
    Runs (if c then m₁ else m₂) F a g w := by
  rwa [if_neg hc]

theorem runs_setCmd {f : RespbCommand → RespbCommand}
    (hf : ∀ c args, { f c with args := args } = f { c with args := args }) :
    Runs (setCmd f) [] () f Writes.none := by
  refine ⟨fun s _ _ => ⟨{ s with cmd := f s.cmd }, rfl, rfl, rfl, rfl, fun args => hf s.cmd args,
    fun _ => ⟨rfl, ?_⟩⟩⟩
  have h := congrArg RespbCommand.args (hf s.cmd s.cmd.args)
  exact congrFun h.symm _

theorem runs_setArgc (n : Nat) :
    Runs (setArgc n) [] () (fun c => { c with argc := n }) Writes.none :=
  runs_setCmd fun _ _ => rfl

theorem runs_skip {n : Nat} {bs : List UInt8} (h : bs.length = n) :
    Runs (skip n) bs () id Writes.none := by
  refine ⟨fun s _ hlen => ⟨{ s with pos := s.pos + n }, ?_, by rw [h], rfl, rfl, fun _ => rfl,
    fun _ => ⟨rfl, rfl⟩⟩⟩
  rw [skip_apply, if_neg (by omega)]

theorem runs_readU16 {n : Nat} (hn : n < 2 ^ 16) : Runs readU16 (be16 n) n id Writes.none := by
  refine ⟨fun s hF hlen => ⟨{ s with pos := s.pos + 2 }, ?_, rfl, rfl, rfl, fun _ => rfl,
    fun _ => ⟨rfl, rfl⟩⟩⟩
  rw [readU16_apply, if_neg (by simp at hlen; omega), u16_of_bytesAt hF, Nat.mod_eq_of_lt hn]

theorem runs_readU32 (v : UInt32) : Runs readU32 (be32 v.toNat) v id Writes.none := by
  refine ⟨fun s hF hlen => ⟨{ s with pos := s.pos + 4 }, ?_, rfl, rfl, rfl, fun _ => rfl,
    fun _ => ⟨rfl, rfl⟩⟩⟩
  have hv : s.u32 s.pos = v := by
    apply UInt32.toNat.inj
    rw [u32_of_bytesAt hF]
    exact Nat.mod_eq_of_lt (UInt32.toNat_lt_size v)
  rw [readU32_apply, if_neg (by simp at hlen; omega), hv]

/-- A slot read of a string `d` at the cursor, as `READ_STRING_2B` and `READ_STRING_4B` leave it. -/
theorem slotAfter_storeArg {s : ParseState} {m : Nat} {d : List UInt8} {k j : Fin respbMaxArgs}
    (hd : BytesAt s.buffer (s.pos + m) d) :
    SlotAfter s ({ s with pos := s.pos + m + d.length }.storeArg k ⟨s.pos + m, d.length⟩) j
      (Writes.one k d j) := by
  by_cases hj : j = k
  · subst hj
    simp only [Writes.one, if_true]
    refine ⟨by simp, ?_⟩
    simp only [ParseState.storeArg_args, ParseState.storeArg_buffer, Function.update_same]
    exact argBytes_of_bytesAt hd
  · simp only [Writes.one, if_neg (fun h => hj (Fin.ext h))]
    exact ⟨by simp [Function.update_noteq hj], by simp [Function.update_noteq hj]⟩

theorem runs_readString2B {k : Nat} {d : List UInt8} (hk : k < respbMaxArgs)
    (hd : d.length < 2 ^ 16) : Runs (readString2B k) (str2 d) () id (Writes.one k d) := by
  refine ⟨fun s hF hlen => ?_⟩
  simp only [str2_length] at hlen
  rw [str2, bytesAt_append] at hF
  have hu : s.u16 s.pos = d.length := by rw [u16_of_bytesAt hF.1, Nat.mod_eq_of_lt hd]
  refine ⟨{ s with pos := s.pos + 2 + d.length }.storeArg ⟨k, hk⟩ ⟨s.pos + 2, d.length⟩, ?_,
    by simp only [ParseState.storeArg_pos, str2_length]; omega, rfl, rfl, fun _ => rfl,
    fun j => slotAfter_storeArg hF.2⟩
  rw [readString2B_apply, if_neg (show ¬s.pos + 2 > s.bufferLen by omega), hu,
    if_neg (show ¬s.pos + 2 + d.length > s.bufferLen by omega), dif_pos hk]

theorem runs_readString4B {k : Nat} {d : List UInt8} (hk : k < respbMaxArgs)
    (hd : d.length < 2 ^ 32) : Runs (readString4B k) (str4 d) () id (Writes.one k d) := by
  refine ⟨fun s hF hlen => ?_⟩
  simp only [str4_length] at hlen
  rw [str4, bytesAt_append] at hF
  have hu : (s.u32 s.pos).toNat = d.length := by
    rw [u32_of_bytesAt hF.1, Nat.mod_eq_of_lt hd]
  refine ⟨{ s with pos := s.pos + 4 + d.length }.storeArg ⟨k, hk⟩ ⟨s.pos + 4, d.length⟩, ?_,
    by simp only [ParseState.storeArg_pos, str4_length]; omega, rfl, rfl, fun _ => rfl,
    fun j => slotAfter_storeArg hF.2⟩
  rw [readString4B_apply, if_neg (show ¬s.pos + 4 > s.bufferLen by omega), hu,
    if_neg (show ¬s.pos + 4 + d.length > s.bufferLen by omega), dif_pos hk]

end Steps

section Loops

variable {β : Type}

/-- The writes of the iterations `i, i + 1, …` of a loop over the fields `xs`. -/
def loopWrites (wr : Nat → β → Writes) : Nat → List β → Writes
  | _, [] => Writes.none
  | i, x :: xs => (wr i x).then (loopWrites wr (i + 1) xs)

theorem loopWrites_eq_none {wr : Nat → β → Writes} {k : Nat} :
    ∀ (xs : List β) (i : Nat), (∀ j x, i ≤ j → j < i + xs.length → wr j x k = Option.none) →
      loopWrites wr i xs k = Option.none
  | [], _, _ => rfl
  | x :: xs, i, h => by
    simp only [loopWrites, Writes.then]
    rw [loopWrites_eq_none xs (i + 1) fun j y hj hj' => h j y (by omega) (by simp; omega),
      h i x le_rfl (by simp)]
    rfl

/-- A counted loop of `n` iterations that reads the fields `xs`, one per iteration: the guard
holds for each of them, and if the count goes on past them the guard stops the loop there. -/
theorem runs_forCountFrom {guard : Nat → Prop} [DecidablePred guard] {body : Nat → ParseM Unit}
    {ok : β → Prop} (enc : β → List UInt8) (wr : Nat → β → Writes)
    (hbody : ∀ i x, guard i → ok x → Runs (body i) (enc x) () id (wr i x)) :
    ∀ (xs : List β) (i n : Nat), (∀ x ∈ xs, ok x) → (∀ j < xs.length, guard (i + j)) →
      xs.length ≤ n → (xs.length < n → ¬ guard (i + xs.length)) →
      Runs (forCountFrom guard body i n) (xs.flatMap enc) () id (loopWrites wr i xs)
  | [], i, n, _, _, _, hstop => by
    cases n with
    | zero => exact runs_pure ()
    | succ n =>
      rw [forCountFrom_succ, if_neg (by simpa using hstop (Nat.succ_pos n))]
      exact runs_pure ()
  | x :: xs, i, n, hok, hg, hn, hstop => by
    obtain ⟨n, rfl⟩ : ∃ m, n = m + 1 := ⟨n - 1, by simp at hn; omega⟩
    have hi : guard i := by simpa using hg 0 (by simp)
    have hg' : ∀ j < xs.length, guard (i + 1 + j) := fun j hj => by
      have := hg (j + 1) (by simp; omega)
      rwa [show i + (j + 1) = i + 1 + j by omega] at this
    have hstop' : xs.length < n → ¬ guard (i + 1 + xs.length) := fun h => by
      have := hstop (by simp; omega)
      rwa [List.length_cons, show i + (xs.length + 1) = i + 1 + xs.length by omega] at this
    have hrest := runs_forCountFrom enc wr hbody xs (i + 1) n
      (fun y hy => hok y (List.mem_cons_of_mem _ hy)) hg' (by simp at hn; omega) hstop'
    rw [forCountFrom_succ, if_pos hi, List.flatMap_cons]
    show Runs _ _ () (id ∘ id) ((wr i x).then (loopWrites wr (i + 1) xs))
    exact runs_bind (hbody i x hi (hok x (List.mem_cons_self _ _))) hrest

/-- The strings `[2B len][bytes]`, back to back. -/
def strs2 (ds : List (List UInt8)) : List UInt8 := ds.flatMap str2

@[simp] theorem strs2_length (ds : List (List UInt8)) :
    (strs2 ds).length = (ds.map fun d => 2 + d.length).sum := by
  induction ds with
  | nil => rfl
  | cons d ds ih => simp [strs2, List.flatMap_cons] at ih ⊢; omega

/-- Strings short enough for a 2-byte length prefix. -/
def Short2 (ds : List (List UInt8)) : Prop := ∀ d ∈ ds, d.length < 2 ^ 16

instance (ds : List (List UInt8)) : Decidable (Short2 ds) :=
  inferInstanceAs (Decidable (∀ d ∈ ds, d.length < 2 ^ 16))

/-- The keys loop from `args[first]` reads `min(count, RESPB_MAX_ARGS - first)` strings. -/
theorem runs_readKeys {first n : Nat} {ds : List (List UInt8)} (hds : Short2 ds)
    (hlen : ds.length = min n (respbMaxArgs - first)) :
    Runs (readKeys first n) (strs2 ds) () id
      (loopWrites (fun i d => Writes.one (i + first) d) 0 ds) :=
  runs_forCountFrom str2 _ (fun _ _ hi hd => runs_readString2B hi hd) ds 0 n hds
    (fun j hj => by show 0 + j + first < respbMaxArgs; omega) (by omega)
    (fun h => by show ¬(0 + ds.length + first < respbMaxArgs); omega)

/-- Pairs `[2B len][field][4B len][value]`, back to back. -/
def pairs24 (ps : List (List UInt8 × List UInt8)) : List UInt8 :=
  ps.flatMap fun p => str2 p.1 ++ str4 p.2

/-- Pairs `[2B len][key][2B len][id]`, back to back. -/
def pairs22 (ps : List (List UInt8 × List UInt8)) : List UInt8 :=
  ps.flatMap fun p => str2 p.1 ++ str2 p.2

/-- Pairs short enough for their prefixes: `p.1` for two bytes, `p.2` for `2 ^ w`. -/
def ShortPairs (w : Nat) (ps : List (List UInt8 × List UInt8)) : Prop :=
  ∀ p ∈ ps, p.1.length < 2 ^ 16 ∧ p.2.length < 2 ^ w

instance (w : Nat) (ps : List (List UInt8 × List UInt8)) : Decidable (ShortPairs w ps) :=
  inferInstanceAs (Decidable (∀ p ∈ ps, p.1.length < 2 ^ 16 ∧ p.2.length < 2 ^ w))

/-- The writes of a pair loop into `args[k₁ i]` and `args[k₂ i]`. -/
def pairWrites (k₁ k₂ : Nat → Nat) : Nat → List UInt8 × List UInt8 → Writes :=
  fun i p => (Writes.one (k₁ i) p.1).then (Writes.one (k₂ i) p.2)

section PairLoops

variable {guard : Nat → Prop} [DecidablePred guard] {k₁ k₂ : Nat → Nat} {n : Nat}
  {ps : List (List UInt8 × List UInt8)}

/-- The loop of MSET and HSET: `READ_STRING_2B` into `args[k₁ i]`, then `READ_STRING_4B` into
`args[k₂ i]`, over the pairs `ps`, the guard keeping both slots in `args` and stopping the loop
after the last pair. -/
theorem runs_pairs24 (hk : ∀ i, guard i → k₁ i < respbMaxArgs ∧ k₂ i < respbMaxArgs)
    (hps : ShortPairs 32 ps) (hg : ∀ i < ps.length, guard i) (hn : ps.length ≤ n)
    (hstop : ps.length < n → ¬ guard ps.length) :
    Runs (forCount n guard fun i => do
        readString2B (k₁ i)
        readString4B (k₂ i))
      (pairs24 ps) () id (loopWrites (pairWrites k₁ k₂) 0 ps) := by
  refine runs_forCountFrom (fun p : List UInt8 × List UInt8 => str2 p.1 ++ str4 p.2) (pairWrites k₁ k₂)
    (fun i p hi hp => ?_) ps 0 n hps (fun j hj => by simpa using hg j hj) hn
    (fun h => by simpa using hstop h)
  show Runs _ _ () (id ∘ id) _
  exact runs_bind (runs_readString2B (hk i hi).1 hp.1) (runs_readString4B (hk i hi).2 hp.2)

/-- The loop of XREAD and XREADGROUP: two `READ_STRING_2B`, into `args[k₁ i]` and `args[k₂ i]`. -/
theorem runs_pairs22 (hk : ∀ i, guard i → k₁ i < respbMaxArgs ∧ k₂ i < respbMaxArgs)
    (hps : ShortPairs 16 ps) (hg : ∀ i < ps.length, guard i) (hn : ps.length ≤ n)
    (hstop : ps.length < n → ¬ guard ps.length) :
    Runs (forCount n guard fun i => do
        readString2B (k₁ i)
        readString2B (k₂ i))
      (pairs22 ps) () id (loopWrites (pairWrites k₁ k₂) 0 ps) := by
  refine runs_forCountFrom (fun p : List UInt8 × List UInt8 => str2 p.1 ++ str2 p.2) (pairWrites k₁ k₂)
    (fun i p hi hp => ?_) ps 0 n hps (fun j hj => by simpa using hg j hj) hn
    (fun h => by simpa using hstop h)
  show Runs _ _ () (id ∘ id) _
  exact runs_bind (runs_readString2B (hk i hi).1 hp.1) (runs_readString2B (hk i hi).2 hp.2)

end PairLoops

end Loops

end ProtocolBench.Respb
