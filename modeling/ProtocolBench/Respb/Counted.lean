import ProtocolBench.Respb.Frames

/-!
Counted groups. The loops of `respb_parse_command` stop at the capacity of `args`, so a frame
whose count is larger is consumed only up to the capacity. The `argc` formulas are checked
against the slots the loops fill: for HSET and HMSET with 31 pairs the loop fills `args[1..62]`
and the formula gives `argc = 64`, so `args[63]` is counted while the call never assigned it.
-/

namespace ProtocolBench.Respb
open ParseM

/-- The layouts of the cases that read a counted group, as the comments on the cases state them,
with the fields they mark optional or simplified left out. -/
inductive GroupLayout where
  /-- `[lead bytes][2B count]([2B keylen][key])...[trail bytes]` -/
  | keys (lead trail : Nat)
  /-- `[lead bytes][2B keylen][key][2B count]([2B len][element])...[trail bytes]` -/
  | keyed (lead trail : Nat)
  /-- `[2B count]([2B keylen][key][4B vallen][value])...` -/
  | pairs
  /-- `[2B keylen][key][2B npairs]([2B fieldlen][field][4B vallen][value])...` -/
  | keyedPairs
  /-- `[2B numkeys]([2B keylen][key][2B idlen][id])...` -/
  | streams
  /-- `[2B grouplen][group][2B consumerlen][consumer]`, then the streams -/
  | groupStreams
  /-- `[4B scriptlen][script][2B numkeys]([2B keylen][key])...[2B numargs]([2B arglen][arg])...` -/
  | script
  /-- The same with `[2B len]` before the sha1 or the function name -/
  | named
  /-- The module frame of JSON.GET: `[4B subcommand][2B keylen][key][2B numpaths]([2B len][path])...` -/
  | jsonGet
  deriving DecidableEq, Repr

/-- The layout of the case of each opcode that reads a counted group. -/
def Op.groupLayout : Op → Option GroupLayout
  | .mget | .del | .«exists» | .unlink | .sinter | .sunion | .sdiff | .sintercard | .zintercard
  | .watch | .touch | .pfcount | .subscribe | .unsubscribe | .ssubscribe | .sunsubscribe
  | .psubscribe | .punsubscribe => some (.keys 0 0)
  | .lpush | .rpush | .lpushx | .rpushx | .sadd | .srem | .sinterstore | .sunionstore
  | .sdiffstore | .smismember | .hmget | .hdel | .zrem | .zdiffstore | .zmscore | .pfadd
  | .pfmerge | .geohash | .geopos => some (.keyed 0 0)
  | .blmpop | .bzmpop => some (.keys 8 1)
  | .lmpop | .zdiff | .zinter | .zunion | .zmpop => some (.keys 0 1)
  | .blpop | .brpop | .bzpopmin | .bzpopmax => some (.keys 0 8)
  | .zinterstore | .zunionstore => some (.keyed 0 1)
  | .bitop => some (.keyed 1 0)
  | .mset | .msetnx => some .pairs
  | .hset | .hmset => some .keyedPairs
  | .xread => some .streams
  | .xreadgroup => some .groupStreams
  | .eval | .evalRo => some .script
  | .evalsha | .evalshaRo | .fcall | .fcallRo => some .named
  | .module => some .jsonGet
  | _ => none

/-- The opcode taken for each layout that occurs: every opcode of a layout runs the same code. -/
def GroupLayout.rep : GroupLayout → Op
  | .keys 8 _ => .blmpop
  | .keys _ 1 => .lmpop
  | .keys _ 8 => .blpop
  | .keys _ _ => .mget
  | .keyed 1 _ => .bitop
  | .keyed _ 1 => .zinterstore
  | .keyed _ _ => .lpush
  | .pairs => .mset
  | .keyedPairs => .hset
  | .streams => .xread
  | .groupStreams => .xreadgroup
  | .script => .eval
  | .named => .evalsha
  | .jsonGet => .module

/-- The layouts of `Op.groupLayout`. -/
def GroupLayout.occurring : List GroupLayout :=
  [.keys 0 0, .keys 8 1, .keys 0 1, .keys 0 8, .keyed 0 0, .keyed 0 1, .keyed 1 0, .pairs,
    .keyedPairs, .streams, .groupStreams, .script, .named, .jsonGet]

/-- Every opcode with a counted group is parsed by the code of its layout's representative. -/
theorem parsePayload_of_groupLayout {op : Op} {L : GroupLayout} (hL : op.groupLayout = some L) :
    parsePayload op = parsePayload L.rep ∧ L ∈ GroupLayout.occurring := by
  cases op <;> cases hL <;> exact ⟨rfl, by decide⟩

/-- `L.Frame F ns`: the payload `F` is laid out as `L` states, every length fits its prefix, and
`ns` are its counts. -/
inductive GroupLayout.Frame : GroupLayout → List UInt8 → List Nat → Prop
  | keys {l r : Nat} (lead trail : List UInt8) (ks : List (List UInt8)) :
      lead.length = l → trail.length = r → Short2 ks → ks.length < 2 ^ 16 →
      Frame (.keys l r) (lead ++ be16 ks.length ++ strs2 ks ++ trail) [ks.length]
  | keyed {l r : Nat} (lead key trail : List UInt8) (ks : List (List UInt8)) :
      lead.length = l → trail.length = r → key.length < 2 ^ 16 → Short2 ks →
      ks.length < 2 ^ 16 →
      Frame (.keyed l r) (lead ++ str2 key ++ be16 ks.length ++ strs2 ks ++ trail) [ks.length]
  | pairs (ps : List (List UInt8 × List UInt8)) : ShortPairs 32 ps → ps.length < 2 ^ 16 →
      Frame .pairs (be16 ps.length ++ pairs24 ps) [ps.length]
  | keyedPairs (key : List UInt8) (ps : List (List UInt8 × List UInt8)) :
      key.length < 2 ^ 16 → ShortPairs 32 ps → ps.length < 2 ^ 16 →
      Frame .keyedPairs (str2 key ++ be16 ps.length ++ pairs24 ps) [ps.length]
  | streams (ps : List (List UInt8 × List UInt8)) : ShortPairs 16 ps → ps.length < 2 ^ 16 →
      Frame .streams (be16 ps.length ++ pairs22 ps) [ps.length]
  | groupStreams (group consumer : List UInt8) (ps : List (List UInt8 × List UInt8)) :
      group.length < 2 ^ 16 → consumer.length < 2 ^ 16 → ShortPairs 16 ps →
      ps.length < 2 ^ 16 →
      Frame .groupStreams (str2 group ++ str2 consumer ++ be16 ps.length ++ pairs22 ps)
        [ps.length]
  | script (script : List UInt8) (keys args : List (List UInt8)) :
      script.length < 2 ^ 32 → Short2 keys → Short2 args → keys.length < 2 ^ 16 →
      args.length < 2 ^ 16 →
      Frame .script (str4 script ++ be16 keys.length ++ strs2 keys ++ be16 args.length ++
        strs2 args) [keys.length, args.length]
  | named (name : List UInt8) (keys args : List (List UInt8)) :
      name.length < 2 ^ 16 → Short2 keys → Short2 args → keys.length < 2 ^ 16 →
      args.length < 2 ^ 16 →
      Frame .named (str2 name ++ be16 keys.length ++ strs2 keys ++ be16 args.length ++
        strs2 args) [keys.length, args.length]
  | jsonGet (key : List UInt8) (paths : List (List UInt8)) :
      key.length < 2 ^ 16 → Short2 paths → paths.length < 2 ^ 16 →
      Frame .jsonGet (be32 1 ++ str2 key ++ be16 paths.length ++ strs2 paths) [paths.length]

/-- The counts whose elements the loops read in full: the group fits the slots of `args` left
after the fields before it, and a script case has at most the one argument it reads. -/
def GroupLayout.Fits : GroupLayout → List Nat → Prop
  | .keys _ _, [n] => n ≤ respbMaxArgs
  | .keyed _ _, [n] | .jsonGet, [n] => n ≤ respbMaxArgs - 1
  | .pairs, [n] | .streams, [n] => n ≤ respbMaxArgs / 2
  | .keyedPairs, [n] | .groupStreams, [n] => n ≤ (respbMaxArgs - 2) / 2
  | .script, [nk, na] | .named, [nk, na] => na ≤ 1 ∧ nk + na < respbMaxArgs
  | _, _ => False

/-- The counts whose groups the loops leave partly unread: a group over the slots of `args` left
after the fields before it, and, for a script case whose keys fit, more than the one argument it
reads or an argument with no slot left for it. (With 64 keys or more a script case reads the bytes
of a key as `numargs`, and what it consumes then depends on those bytes.) -/
def GroupLayout.Over : GroupLayout → List Nat → Prop
  | .keys _ _, [n] => respbMaxArgs < n
  | .keyed _ _, [n] | .jsonGet, [n] => respbMaxArgs - 1 < n
  | .pairs, [n] | .streams, [n] => respbMaxArgs / 2 < n
  | .keyedPairs, [n] | .groupStreams, [n] => (respbMaxArgs - 2) / 2 < n
  | .script, [nk, na] | .named, [nk, na] => nk < respbMaxArgs ∧ (1 < na ∨ respbMaxArgs ≤ nk + na)
  | _, _ => False

/-- `m` runs over a proper prefix of `F`, leaving bytes of `F` unread. -/
def RunsShort (m : ParseM Unit) (F : List UInt8) : Prop :=
  ∃ F₁ F₂ g w, F = F₁ ++ F₂ ∧ F₂ ≠ [] ∧ Runs m F₁ () g w

section Layouts

variable {F : List UInt8} {ns : List Nat}

theorem frame_runs_keys (hF : GroupLayout.Frame (.keys 0 0) F ns)
    (hfit : GroupLayout.Fits (.keys 0 0) ns) : ∃ g w, Runs (parsePayload .mget) F () g w := by
  cases hF with | keys lead trail ks hl hr hks hn =>
    obtain rfl := List.length_eq_zero.1 hl
    obtain rfl := List.length_eq_zero.1 hr
    simp only [GroupLayout.Fits] at hfit
    exact ⟨_, _, (runs_keys hks hn (by omega)).congr (by simp) rfl rfl⟩

theorem frame_runs_keysTrail {r : Nat} (hF : GroupLayout.Frame (.keys 0 r) F ns)
    (hfit : GroupLayout.Fits (.keys 0 r) ns) :
    ∃ g w, Runs (do
        let count ← readU16
        readKeys 0 count
        skip r
        setArgc (cappedArgc count)) F () g w := by
  cases hF with | keys lead trail ks hl hr hks hn =>
    obtain rfl := List.length_eq_zero.1 hl
    simp only [GroupLayout.Fits] at hfit
    exact ⟨_, _, (runs_keysTrail hks hn (by omega) hr).congr (by simp) rfl rfl⟩

theorem frame_runs_keysLeadTrail (hF : GroupLayout.Frame (.keys 8 1) F ns)
    (hfit : GroupLayout.Fits (.keys 8 1) ns) : ∃ g w, Runs (parsePayload .blmpop) F () g w := by
  cases hF with | keys lead trail ks hl hr hks hn =>
    simp only [GroupLayout.Fits] at hfit
    exact ⟨_, _, runs_keysLeadTrail hks hn (by omega) hl hr⟩

theorem frame_runs_keyed (hF : GroupLayout.Frame (.keyed 0 0) F ns)
    (hfit : GroupLayout.Fits (.keyed 0 0) ns) : ∃ g w, Runs (parsePayload .lpush) F () g w := by
  cases hF with | keyed lead key trail ks hl hr hkey hks hn =>
    obtain rfl := List.length_eq_zero.1 hl
    obtain rfl := List.length_eq_zero.1 hr
    simp only [GroupLayout.Fits] at hfit
    exact ⟨_, _, (runs_keyed hkey hks hn (by omega)).congr (by simp) rfl rfl⟩

theorem frame_runs_keyedTrail (hF : GroupLayout.Frame (.keyed 0 1) F ns)
    (hfit : GroupLayout.Fits (.keyed 0 1) ns) :
    ∃ g w, Runs (parsePayload .zinterstore) F () g w := by
  cases hF with | keyed lead key trail ks hl hr hkey hks hn =>
    obtain rfl := List.length_eq_zero.1 hl
    simp only [GroupLayout.Fits] at hfit
    exact ⟨_, _, (runs_keyedTrail hkey hks hn (by omega) hr).congr (by simp) rfl rfl⟩

theorem frame_runs_keyedLead (hF : GroupLayout.Frame (.keyed 1 0) F ns)
    (hfit : GroupLayout.Fits (.keyed 1 0) ns) : ∃ g w, Runs (parsePayload .bitop) F () g w := by
  cases hF with | keyed lead key trail ks hl hr hkey hks hn =>
    obtain rfl := List.length_eq_zero.1 hr
    simp only [GroupLayout.Fits] at hfit
    exact ⟨_, _, (runs_keyedLead hkey hks hn (by omega) hl).congr (by simp) rfl rfl⟩

theorem frame_runs_pairs (hF : GroupLayout.Frame .pairs F ns) (hfit : GroupLayout.Fits .pairs ns) :
    ∃ g w, Runs (parsePayload .mset) F () g w := by
  cases hF with | pairs ps hps hn =>
    simp only [GroupLayout.Fits] at hfit
    exact ⟨_, _, runs_mset hps hn (by omega)⟩

theorem frame_runs_keyedPairs (hF : GroupLayout.Frame .keyedPairs F ns)
    (hfit : GroupLayout.Fits .keyedPairs ns) : ∃ g w, Runs (parsePayload .hset) F () g w := by
  cases hF with | keyedPairs key ps hkey hps hn =>
    simp only [GroupLayout.Fits, respbMaxArgs] at hfit
    exact ⟨_, _, runs_hset hkey hps hn (by omega)⟩

theorem frame_runs_streams (hF : GroupLayout.Frame .streams F ns)
    (hfit : GroupLayout.Fits .streams ns) : ∃ g w, Runs (parsePayload .xread) F () g w := by
  cases hF with | streams ps hps hn =>
    simp only [GroupLayout.Fits] at hfit
    exact ⟨_, _, runs_xread hps hn (by omega)⟩

theorem frame_runs_groupStreams (hF : GroupLayout.Frame .groupStreams F ns)
    (hfit : GroupLayout.Fits .groupStreams ns) :
    ∃ g w, Runs (parsePayload .xreadgroup) F () g w := by
  cases hF with | groupStreams group consumer ps hg hc hps hn =>
    simp only [GroupLayout.Fits] at hfit
    exact ⟨_, _, runs_xreadgroup hg hc hps hn (by omega)⟩

theorem frame_runs_script (hF : GroupLayout.Frame .script F ns)
    (hfit : GroupLayout.Fits .script ns) : ∃ g w, Runs (parsePayload .eval) F () g w := by
  cases hF with | script script keys args hs hk ha hnk =>
    simp only [GroupLayout.Fits] at hfit
    exact ⟨_, _, runs_eval hs hk ha hnk hfit.1 hfit.2⟩

theorem frame_runs_named (hF : GroupLayout.Frame .named F ns)
    (hfit : GroupLayout.Fits .named ns) : ∃ g w, Runs (parsePayload .evalsha) F () g w := by
  cases hF with | named name keys args hs hk ha hnk =>
    simp only [GroupLayout.Fits] at hfit
    exact ⟨_, _, runs_evalsha hs hk ha hnk hfit.1 hfit.2⟩

theorem frame_runs_jsonGet (hF : GroupLayout.Frame .jsonGet F ns)
    (hfit : GroupLayout.Fits .jsonGet ns) : ∃ g w, Runs (parsePayload .module) F () g w := by
  cases hF with | jsonGet key paths hkey hps hn =>
    simp only [GroupLayout.Fits] at hfit
    exact ⟨_, _, runs_jsonGet hkey hps hn (by omega)⟩

theorem Short2.take {ds : List (List UInt8)} (h : Short2 ds) (k : Nat) : Short2 (ds.take k) :=
  fun d hd => h d (List.mem_of_mem_take hd)

theorem ShortPairs.take {w : Nat} {ps : List (List UInt8 × List UInt8)} (h : ShortPairs w ps)
    (k : Nat) : ShortPairs w (ps.take k) :=
  fun p hp => h p (List.mem_of_mem_take hp)

/-- A group of more than `k` elements, written back to back: the first `k`, then the others,
which are some bytes. -/
theorem flatMap_cut {β : Type} {f : β → List UInt8} (hf : ∀ x, f x ≠ []) {xs : List β} {k : Nat}
    (hk : k < xs.length) :
    xs.flatMap f = (xs.take k).flatMap f ++ (xs.drop k).flatMap f ∧ (xs.drop k).flatMap f ≠ [] := by
  refine ⟨by rw [← List.flatMap_append, List.take_append_drop], fun h => ?_⟩
  obtain ⟨x, xs', hx⟩ := List.exists_cons_of_length_pos (l := xs.drop k) (by simp; omega)
  exact hf x (List.flatMap_eq_nil_iff.1 h x (hx ▸ List.mem_cons_self _ _))

theorem strs2_cut {ks : List (List UInt8)} {k : Nat} (hk : k < ks.length) :
    strs2 ks = strs2 (ks.take k) ++ strs2 (ks.drop k) ∧ strs2 (ks.drop k) ≠ [] :=
  flatMap_cut (fun d => List.ne_nil_of_length_pos (by simp [str2])) hk

theorem pairs24_cut {ps : List (List UInt8 × List UInt8)} {k : Nat} (hk : k < ps.length) :
    pairs24 ps = pairs24 (ps.take k) ++ pairs24 (ps.drop k) ∧ pairs24 (ps.drop k) ≠ [] :=
  flatMap_cut (fun p => List.ne_nil_of_length_pos (by simp [str2])) hk

theorem pairs22_cut {ps : List (List UInt8 × List UInt8)} {k : Nat} (hk : k < ps.length) :
    pairs22 ps = pairs22 (ps.take k) ++ pairs22 (ps.drop k) ∧ pairs22 (ps.drop k) ≠ [] :=
  flatMap_cut (fun p => List.ne_nil_of_length_pos (by simp [str2])) hk

/-- Trailing fields of `r` bytes, read where the unread part of the group goes on. -/
theorem trail_cut {X trail : List UInt8} (hX : X ≠ []) {r : Nat} (hr : trail.length = r) :
    ((X ++ trail).take r).length = r ∧ (X ++ trail).drop r ≠ [] := by
  have := List.length_pos.2 hX
  refine ⟨by simp; omega, ?_⟩
  rw [← List.length_pos, List.length_drop, List.length_append]
  omega

theorem frame_short_keys (hF : GroupLayout.Frame (.keys 0 0) F ns)
    (hover : GroupLayout.Over (.keys 0 0) ns) : RunsShort (parsePayload .mget) F := by
  cases hF with | keys lead trail ks hl hr hks hn =>
    obtain rfl := List.length_eq_zero.1 hl
    obtain rfl := List.length_eq_zero.1 hr
    obtain ⟨hsplit, hne⟩ := strs2_cut (k := respbMaxArgs) hover
    exact ⟨_, _, _, _,
      by rw [hsplit]; simp only [List.nil_append, List.append_nil, List.append_assoc],
      hne, runs_keys (hks.take respbMaxArgs) hn (by rw [List.length_take, Nat.min_comm])⟩

theorem frame_short_keysTrail {r : Nat} (hF : GroupLayout.Frame (.keys 0 r) F ns)
    (hover : GroupLayout.Over (.keys 0 r) ns) :
    RunsShort (do
        let count ← readU16
        readKeys 0 count
        skip r
        setArgc (cappedArgc count)) F := by
  cases hF with | keys lead trail ks hl hr hks hn =>
    obtain rfl := List.length_eq_zero.1 hl
    obtain ⟨hsplit, hne⟩ := strs2_cut (k := respbMaxArgs) hover
    obtain ⟨htake, hdrop⟩ := trail_cut hne hr
    exact ⟨_, _, _, _, by
        rw [hsplit]; simp only [List.nil_append, List.append_assoc, List.take_append_drop],
      hdrop, runs_keysTrail (hks.take respbMaxArgs) hn
        (by rw [List.length_take, Nat.min_comm]) htake⟩

theorem frame_short_keysLeadTrail (hF : GroupLayout.Frame (.keys 8 1) F ns)
    (hover : GroupLayout.Over (.keys 8 1) ns) : RunsShort (parsePayload .blmpop) F := by
  cases hF with | keys lead trail ks hl hr hks hn =>
    obtain ⟨hsplit, hne⟩ := strs2_cut (k := respbMaxArgs) hover
    obtain ⟨htake, hdrop⟩ := trail_cut hne hr
    exact ⟨_, _, _, _, by rw [hsplit]; simp only [List.append_assoc, List.take_append_drop],
      hdrop, runs_keysLeadTrail (hks.take respbMaxArgs) hn
        (by rw [List.length_take, Nat.min_comm]) hl htake⟩

theorem frame_short_keyed (hF : GroupLayout.Frame (.keyed 0 0) F ns)
    (hover : GroupLayout.Over (.keyed 0 0) ns) : RunsShort (parsePayload .lpush) F := by
  cases hF with | keyed lead key trail ks hl hr hkey hks hn =>
    obtain rfl := List.length_eq_zero.1 hl
    obtain rfl := List.length_eq_zero.1 hr
    obtain ⟨hsplit, hne⟩ := strs2_cut (k := respbMaxArgs - 1) hover
    exact ⟨_, _, _, _,
      by rw [hsplit]; simp only [List.nil_append, List.append_nil, List.append_assoc],
      hne, runs_keyed hkey (hks.take (respbMaxArgs - 1)) hn
        (by rw [List.length_take, Nat.min_comm])⟩

theorem frame_short_keyedTrail (hF : GroupLayout.Frame (.keyed 0 1) F ns)
    (hover : GroupLayout.Over (.keyed 0 1) ns) : RunsShort (parsePayload .zinterstore) F := by
  cases hF with | keyed lead key trail ks hl hr hkey hks hn =>
    obtain rfl := List.length_eq_zero.1 hl
    obtain ⟨hsplit, hne⟩ := strs2_cut (k := respbMaxArgs - 1) hover
    obtain ⟨htake, hdrop⟩ := trail_cut hne hr
    exact ⟨_, _, _, _, by
        rw [hsplit]; simp only [List.nil_append, List.append_assoc, List.take_append_drop],
      hdrop, runs_keyedTrail hkey (hks.take (respbMaxArgs - 1)) hn
        (by rw [List.length_take, Nat.min_comm]) htake⟩

theorem frame_short_keyedLead (hF : GroupLayout.Frame (.keyed 1 0) F ns)
    (hover : GroupLayout.Over (.keyed 1 0) ns) : RunsShort (parsePayload .bitop) F := by
  cases hF with | keyed lead key trail ks hl hr hkey hks hn =>
    obtain rfl := List.length_eq_zero.1 hr
    obtain ⟨hsplit, hne⟩ := strs2_cut (k := respbMaxArgs - 1) hover
    exact ⟨_, _, _, _, by rw [hsplit]; simp only [List.append_nil, List.append_assoc],
      hne, runs_keyedLead hkey (hks.take (respbMaxArgs - 1)) hn
        (by rw [List.length_take, Nat.min_comm]) hl⟩

theorem frame_short_pairs (hF : GroupLayout.Frame .pairs F ns) (hover : GroupLayout.Over .pairs ns) :
    RunsShort (parsePayload .mset) F := by
  cases hF with | pairs ps hps hn =>
    obtain ⟨hsplit, hne⟩ := pairs24_cut (k := respbMaxArgs / 2) hover
    exact ⟨_, _, _, _, by rw [hsplit]; simp only [List.append_assoc], hne,
      runs_mset (hps.take (respbMaxArgs / 2)) hn (by rw [List.length_take, Nat.min_comm])⟩

theorem frame_short_keyedPairs (hF : GroupLayout.Frame .keyedPairs F ns)
    (hover : GroupLayout.Over .keyedPairs ns) : RunsShort (parsePayload .hset) F := by
  cases hF with | keyedPairs key ps hkey hps hn =>
    obtain ⟨hsplit, hne⟩ := pairs24_cut (k := 31) hover
    exact ⟨_, _, _, _, by rw [hsplit]; simp only [List.append_assoc], hne,
      runs_hset hkey (hps.take 31) hn (by rw [List.length_take, Nat.min_comm])⟩

theorem frame_short_streams (hF : GroupLayout.Frame .streams F ns)
    (hover : GroupLayout.Over .streams ns) : RunsShort (parsePayload .xread) F := by
  cases hF with | streams ps hps hn =>
    obtain ⟨hsplit, hne⟩ := pairs22_cut (k := respbMaxArgs / 2) hover
    exact ⟨_, _, _, _, by rw [hsplit]; simp only [List.append_assoc], hne,
      runs_xread (hps.take (respbMaxArgs / 2)) hn (by rw [List.length_take, Nat.min_comm])⟩

theorem frame_short_groupStreams (hF : GroupLayout.Frame .groupStreams F ns)
    (hover : GroupLayout.Over .groupStreams ns) : RunsShort (parsePayload .xreadgroup) F := by
  cases hF with | groupStreams group consumer ps hg hc hps hn =>
    obtain ⟨hsplit, hne⟩ := pairs22_cut (k := (respbMaxArgs - 2) / 2) hover
    exact ⟨_, _, _, _, by rw [hsplit]; simp only [List.append_assoc], hne,
      runs_xreadgroup hg hc (hps.take ((respbMaxArgs - 2) / 2)) hn (by rw [List.length_take, Nat.min_comm])⟩

theorem frame_short_jsonGet (hF : GroupLayout.Frame .jsonGet F ns)
    (hover : GroupLayout.Over .jsonGet ns) : RunsShort (parsePayload .module) F := by
  cases hF with | jsonGet key paths hkey hps hn =>
    obtain ⟨hsplit, hne⟩ := strs2_cut (k := respbMaxArgs - 1) hover
    exact ⟨_, _, _, _, by rw [hsplit]; simp only [List.append_assoc], hne,
      runs_jsonGet hkey (hps.take (respbMaxArgs - 1)) hn (by rw [List.length_take, Nat.min_comm])⟩

/-- The arguments a script case leaves unread: all but the first when a slot is left for it, all
of them otherwise. -/
theorem scriptArgs_cut {nk : Nat} {args : List (List UInt8)} (hk : nk < respbMaxArgs)
    (hover : 1 < args.length ∨ respbMaxArgs ≤ nk + args.length) :
    strs2 args = strs2 (args.take (if nk + 1 < respbMaxArgs then 1 else 0)) ++
      strs2 (args.drop (if nk + 1 < respbMaxArgs then 1 else 0)) ∧
      strs2 (args.drop (if nk + 1 < respbMaxArgs then 1 else 0)) ≠ [] :=
  strs2_cut (by split_ifs <;> omega)

theorem frame_short_script (hF : GroupLayout.Frame .script F ns)
    (hover : GroupLayout.Over .script ns) : RunsShort (parsePayload .eval) F := by
  cases hF with | script script keys args hs hk ha hnk hna =>
    obtain ⟨hkeys, hargs⟩ := hover
    obtain ⟨hsplit, hne⟩ := scriptArgs_cut hkeys hargs
    obtain ⟨g, w, hrun⟩ := runs_readNumkeysFirstArg_cut hk ha hkeys hna (by omega)
    exact ⟨_, _, _, _, by rw [hsplit]; simp only [List.append_assoc], hne,
      runs_bind (runs_readString4B (by decide) hs) hrun⟩

theorem frame_short_named (hF : GroupLayout.Frame .named F ns)
    (hover : GroupLayout.Over .named ns) : RunsShort (parsePayload .evalsha) F := by
  cases hF with | named name keys args hs hk ha hnk hna =>
    obtain ⟨hkeys, hargs⟩ := hover
    obtain ⟨hsplit, hne⟩ := scriptArgs_cut hkeys hargs
    obtain ⟨g, w, hrun⟩ := runs_readNumkeysFirstArg_cut hk ha hkeys hna (by omega)
    exact ⟨_, _, _, _, by rw [hsplit]; simp only [List.append_assoc], hne,
      runs_bind (runs_readString2B (by decide) hs) hrun⟩

/-- The case of every opcode with a counted group, on a frame of its layout: it runs over the
whole frame when the counts fit, and stops short of its end when they are over the capacity. -/
theorem runs_of_groupLayout {op : Op} {L : GroupLayout} (hL : op.groupLayout = some L)
    (hF : L.Frame F ns) :
    (L.Fits ns → ∃ g w, Runs (parsePayload op) F () g w) ∧
      (L.Over ns → RunsShort (parsePayload op) F) := by
  obtain ⟨hrep, hL⟩ := parsePayload_of_groupLayout hL
  rw [hrep]
  simp only [GroupLayout.occurring, List.mem_cons, List.mem_singleton, List.not_mem_nil,
    or_false] at hL
  rcases hL with rfl | rfl | rfl | rfl | rfl | rfl | rfl | rfl | rfl | rfl | rfl | rfl | rfl | rfl
  · exact ⟨frame_runs_keys hF, frame_short_keys hF⟩
  · exact ⟨frame_runs_keysLeadTrail hF, frame_short_keysLeadTrail hF⟩
  · exact ⟨frame_runs_keysTrail hF, frame_short_keysTrail hF⟩
  · exact ⟨frame_runs_keysTrail hF, frame_short_keysTrail hF⟩
  · exact ⟨frame_runs_keyed hF, frame_short_keyed hF⟩
  · exact ⟨frame_runs_keyedTrail hF, frame_short_keyedTrail hF⟩
  · exact ⟨frame_runs_keyedLead hF, frame_short_keyedLead hF⟩
  · exact ⟨frame_runs_pairs hF, frame_short_pairs hF⟩
  · exact ⟨frame_runs_keyedPairs hF, frame_short_keyedPairs hF⟩
  · exact ⟨frame_runs_streams hF, frame_short_streams hF⟩
  · exact ⟨frame_runs_groupStreams hF, frame_short_groupStreams hF⟩
  · exact ⟨frame_runs_script hF, frame_short_script hF⟩
  · exact ⟨frame_runs_named hF, frame_short_named hF⟩
  · exact ⟨frame_runs_jsonGet hF, frame_short_jsonGet hF⟩

end Layouts

/-- A counted group that fits is framed exactly: `respb_parse_command` returns 1 with the cursor
just past the frame, whatever follows it in the buffer. -/
theorem respbParseCommand_countedGroupFramed (op : Op) (L : GroupLayout)
    (hL : op.groupLayout = some L) (F : List UInt8) (ns : List Nat) (hF : L.Frame F ns)
    (hfit : L.Fits ns) (mux : UInt16) (parser : RespbParser) (cmd : RespbCommand)
    (hbuf : BytesAt parser.buffer parser.pos (respbHeader op mux ++ F))
    (hlen : parser.pos + 4 + F.length ≤ parser.bufferLen) :
    ∃ c, respbParseCommand parser cmd =
      some (1, { parser with pos := parser.pos + 4 + F.length }, c) := by
  obtain ⟨g, w, hrun⟩ := (runs_of_groupLayout hL hF).1 hfit
  exact respbParseCommand_of_runs hrun hbuf hlen

theorem respbParseCommand_countedGroupFramed_mget :
    let F := [] ++ be16 2 ++ strs2 [[97], [98]] ++ []
    let frame := respbHeader .mget 0 ++ F ++ respbHeader .ping 0
    let parser := respbParserInit (bufOf frame) frame.length
    Op.groupLayout .mget = some (.keys 0 0) ∧ GroupLayout.Frame (.keys 0 0) F [2] ∧
      GroupLayout.Fits (.keys 0 0) [2] ∧
      BytesAt parser.buffer parser.pos (respbHeader .mget 0 ++ F) ∧
      parser.pos + 4 + F.length ≤ parser.bufferLen ∧
      ∃ c, respbParseCommand parser default =
        some (1, { parser with pos := parser.pos + 4 + F.length }, c) :=
  have hF : GroupLayout.Frame (.keys 0 0) ([] ++ be16 2 ++ strs2 [[97], [98]] ++ []) [2] :=
    .keys [] [] [[97], [98]] rfl rfl (by decide) (by decide)
  have hbuf := (bytesAt_append.1 (bytesAt_bufOf
    (respbHeader .mget 0 ++ ([] ++ be16 2 ++ strs2 [[97], [98]] ++ []) ++ respbHeader .ping 0))).1
  ⟨rfl, hF, by simp [GroupLayout.Fits, respbMaxArgs], hbuf, by decide,
    respbParseCommand_countedGroupFramed .mget _ rfl _ _ hF
      (by simp [GroupLayout.Fits, respbMaxArgs]) 0 _ default hbuf (by decide)⟩

/-- A counted group over the capacity is not consumed in full: `respb_parse_command` returns 1
with the cursor short of the frame's end, whatever follows it, so a following frame is read from
inside this one. -/
theorem respbParseCommand_stopsAtCapacity (op : Op) (L : GroupLayout)
    (hL : op.groupLayout = some L) (F : List UInt8) (ns : List Nat) (hF : L.Frame F ns)
    (hover : L.Over ns) (mux : UInt16) (parser : RespbParser) (cmd : RespbCommand)
    (hbuf : BytesAt parser.buffer parser.pos (respbHeader op mux ++ F))
    (hlen : parser.pos + 4 + F.length ≤ parser.bufferLen) :
    ∃ k < F.length, ∃ c, respbParseCommand parser cmd =
      some (1, { parser with pos := parser.pos + 4 + k }, c) := by
  obtain ⟨F₁, F₂, g, w, rfl, hne, hrun⟩ := (runs_of_groupLayout hL hF).2 hover
  rw [← List.append_assoc, bytesAt_append] at hbuf
  have h₂ := List.length_pos.2 hne
  rw [List.length_append] at hlen ⊢
  exact ⟨F₁.length, by omega, respbParseCommand_of_runs hrun hbuf.1 (by omega)⟩

/-- MGET with 65 keys is laid out as the case's comment states, but the loop stops at the 64th
key: the parse returns 1 with the cursor at 134, two bytes short of the frame's end at 136. -/
theorem mget_countAboveCapacityCutShort :
    let F := [] ++ be16 65 ++ strs2 (List.replicate 65 []) ++ []
    let frame := respbHeader .mget 0 ++ F
    GroupLayout.Frame (.keys 0 0) F [65] ∧ 4 + F.length = 136 ∧
      ∃ c, respbParseCommand (respbParserInit (bufOf frame) frame.length) default =
        some (1, { respbParserInit (bufOf frame) frame.length with pos := 134 }, c) := by
  intro F frame
  have hempty : Short2 (List.replicate 65 []) := fun d hd => by
    rw [List.eq_of_mem_replicate hd]
    decide
  refine ⟨.keys [] [] (List.replicate 65 []) rfl rfl hempty (by simp), by simp [F], ?_⟩
  obtain ⟨hsplit, -⟩ := @strs2_cut (List.replicate 65 []) respbMaxArgs (by simp [respbMaxArgs])
  have hbuf : BytesAt (bufOf frame) 0 (respbHeader .mget 0 ++
      (be16 65 ++ strs2 ((List.replicate 65 []).take respbMaxArgs)) ++
      strs2 ((List.replicate 65 []).drop respbMaxArgs)) := by
    have h := bytesAt_bufOf frame
    simp only [frame, F, hsplit, List.nil_append, List.append_nil, List.append_assoc] at h ⊢
    exact h
  -- the keys loop reads 64 of the 65 keys
  obtain ⟨c, hc⟩ := @respbParseCommand_of_runs (respbParserInit (bufOf frame) frame.length) default
    _ _ _ _ _ (runs_keys (hempty.take respbMaxArgs) (n := 65) (by decide) (by simp [respbMaxArgs]))
    (bytesAt_append.1 hbuf).1 (by simp [frame, F, respbParserInit, respbMaxArgs])
  exact ⟨c, by simpa [respbParserInit, respbMaxArgs] using hc⟩

/-- HSET with 31 field/value pairs: the parse returns 1 with `argc = 64`, and `args[63]` is the
prior record's slot, not assigned by this call. -/
theorem hset_argcCountsUnassignedSlot (key : List UInt8) (ps : List (List UInt8 × List UInt8))
    (mux : UInt16) (rest : List UInt8) (c : RespbCommand) (hkey : key.length < 2 ^ 16)
    (hps : ShortPairs 32 ps) (h31 : ps.length = 31) :
    let frame := respbHeader .hset mux ++ (str2 key ++ be16 31 ++ pairs24 ps) ++ rest
    ∃ t, parseCommand (.start (respbParserInit (bufOf frame) frame.length) c) = .ok () t ∧
      t.cmd.argc = 64 ∧ t.assigned ⟨63, by decide⟩ = false ∧
      t.cmd.args ⟨63, by decide⟩ = c.args ⟨63, by decide⟩ := by
  intro frame
  have hF := bytesAt_bufOf frame
  rw [bytesAt_append] at hF
  obtain ⟨t, ht, -, -, -, hcmd, hslot⟩ :=
    @parseCommand_of_runs (.start (respbParserInit (bufOf frame) frame.length) c) _ _ _ _ _
      (@runs_hset key ps 31 hkey hps (by norm_num) (by rw [h31]; rfl)) hF.1
      (by simp [frame, respbParserInit, ParseState.start])
  refine ⟨t, ht, ?_, ?_⟩
  · have h := congrArg RespbCommand.argc (hcmd t.cmd.args)
    simpa [respbMaxArgs] using h
  · have hw : loopWrites (pairWrites (fun i => i * 2 + 1) (fun i => i * 2 + 2)) 0 ps 63 =
        Option.none :=
      loopWrites_eq_none ps 0 fun j x _ hj => by
        simp only [pairWrites, Writes.then, Writes.one]
        rw [if_neg (by omega), if_neg (by omega)]
        rfl
    have h63 := hslot ⟨63, by decide⟩
    simp only [Writes.then, hw, Writes.one] at h63
    exact h63

theorem hset_argcCountsUnassignedSlot_example :
    ([] : List UInt8).length < 2 ^ 16 ∧
      ShortPairs 32 (List.replicate 31 (([] : List UInt8), ([] : List UInt8))) ∧
      (List.replicate 31 (([] : List UInt8), ([] : List UInt8))).length = 31 ∧
      let c : RespbCommand := default
      let frame := respbHeader .hset 0 ++
        (str2 [] ++ be16 31 ++ pairs24 (List.replicate 31 ([], []))) ++ []
      ∃ t, parseCommand (.start (respbParserInit (bufOf frame) frame.length) c) = .ok () t ∧
        t.cmd.argc = 64 ∧ t.assigned ⟨63, by decide⟩ = false ∧
        t.cmd.args ⟨63, by decide⟩ = c.args ⟨63, by decide⟩ :=
  ⟨by decide, by decide, rfl,
    hset_argcCountsUnassignedSlot [] _ 0 [] _ (by decide) (by decide) rfl⟩

end ProtocolBench.Respb
