import ProtocolBench.Resp.Workload
import ProtocolBench.Resp.Replay

/-!
The SMALL_KEYS, MEDIUM_KEYS and MIXED workloads of `workload_generate_synthetic` are sequences of
well-formed RESP commands: each `snprintf` format declares the lengths its arguments have, since
`%02zu` of a remainder by 100 and `%04zu` of a remainder by 1000 have a fixed width. Their
replay therefore counts every command in every iteration. LARGE_VALUES is the exception: its
`largekey%zu` key has no fixed width under its `$9`. Whatever the type, the generator copies a
command only when it fits, so no workload outgrows the `target_size` bytes it allocated.
-/

namespace ProtocolBench.Resp

/-- A command one call reads whole and that does not end a workload with a big argument. -/
def SmallCommand (args : List (List UInt8)) : Prop :=
  0 < args.length ∧ args.length < 2 ^ 30 ∧ ∀ a ∈ args, a.length < protoMbulkBigArg

instance : DecidablePred SmallCommand := fun _ => inferInstanceAs (Decidable (_ ∧ _))

/-- Every command a format writes, whatever the size and count it is given, is the frame of a
small command. -/
def SmallFrames (frame : Nat → Nat → Formatted) : Prop :=
  ∀ size count, ∃ args, (frame size count).1 = multibulk args ∧ SmallCommand args

section Small

variable {args : List (List UInt8)}

theorem SmallCommand.wellSized (h : SmallCommand args) : WellSized args :=
  ⟨h.1, h.2.1, fun a ha => by have := h.2.2 a ha; unfold protoMbulkBigArg at this; omega⟩

theorem SmallCommand.not_capturesLast (h : SmallCommand args) (S : List UInt8) :
    ¬ capturesLast args S := by
  rintro ⟨-, a, ha, hbig⟩
  exact absurd (h.2.2 a (List.mem_of_mem_getLast? ha)) (Nat.not_lt.2 hbig)

end Small

/-- `key_%02zu` and `val_%02zu` of a remainder by 100: six bytes. -/
theorem tagged_length {tag : String} (htag : (ascii tag).length = 4) (n : Nat) :
    (ascii tag ++ padDecimal 2 (n % 100)).length = 6 := by
  rw [List.length_append, htag,
    padDecimal_length (@decimal_length_le (n % 100) 2 (by decide) (Nat.mod_lt _ (by decide)))]

/-- The format of a command on one key, `*2 $3 <name> $6 key_%02zu`: GET and DEL. -/
theorem keyCommand_eq {lit name : String} (hname : (ascii name).length = 3)
    (hlit : ascii lit = lengthLine 42 2 ++
      (lengthLine 36 3 ++ (ascii name ++ ([13, 10] ++ (lengthLine 36 6 ++ ascii "key_"))))) (n : Nat) :
    ascii lit ++ (padDecimal 2 (n % 100) ++ ascii "\r\n") =
      multibulk [ascii name, ascii "key_" ++ padDecimal 2 (n % 100)] := by
  simp only [hlit, multibulk, List.flatMap_cons, List.flatMap_nil, bulk, hname,
    tagged_length (show (ascii "key_").length = 4 from rfl), List.append_nil, List.append_assoc,
    List.length_cons, List.length_nil]
  rfl

theorem smallCommand_keyCommand {name : String} (hname : (ascii name).length = 3) (n : Nat) :
    SmallCommand [ascii name, ascii "key_" ++ padDecimal 2 (n % 100)] := by
  refine ⟨by simp, by simp, ?_⟩
  simp only [List.forall_mem_cons, List.forall_mem_nil, hname,
    tagged_length (show (ascii "key_").length = 4 from rfl)]
  decide

/-- The literal start of a `GET key_%02zu` command. -/
theorem get_lit : ascii "*2\r\n$3\r\nGET\r\n$6\r\nkey_" = lengthLine 42 2 ++
    (lengthLine 36 3 ++ (ascii "GET" ++ ([13, 10] ++ (lengthLine 36 6 ++ ascii "key_")))) := by
  simp only [lengthLine, decimal_of_lt (by decide : 2 < 10), decimal_of_lt (by decide : 3 < 10),
    decimal_of_lt (by decide : 6 < 10)]
  decide

/-- SMALL_KEYS: `GET key_%02zu`. -/
theorem smallKeysFrame_small : SmallFrames smallKeysFrame := fun size _ =>
  ⟨_, keyCommand_eq (by rfl) get_lit size, smallCommand_keyCommand (by rfl) size⟩

/-- MEDIUM_KEYS: `SET key_%04zu value_50`. -/
theorem mediumKeysFrame_eq (size count : Nat) :
    (mediumKeysFrame size count).1 =
      multibulk [ascii "SET", ascii "key_" ++ padDecimal 4 (size % 1000), value50] := by
  have hkey : (ascii "key_" ++ padDecimal 4 (size % 1000)).length = 8 := by
    rw [List.length_append, padDecimal_length ((@decimal_length_le (size % 1000) 3 (by decide)
      (Nat.mod_lt _ (by decide))).trans (by decide))]
    rfl
  have hlit : ascii "*3\r\n$3\r\nSET\r\n$8\r\nkey_" = lengthLine 42 3 ++
      (lengthLine 36 3 ++ (ascii "SET" ++ ([13, 10] ++ (lengthLine 36 8 ++ ascii "key_")))) := by
    simp only [lengthLine, decimal_of_lt (by decide : 3 < 10), decimal_of_lt (by decide : 8 < 10)]
    decide
  have hval : ascii "\r\n$50\r\n" = [13, 10] ++ lengthLine 36 value50.length := by
    simp only [value50, List.length_replicate, lengthLine, decimal_of_ge (by decide : ¬ 50 < 10),
      decimal_of_lt (by decide : 50 / 10 < 10)]
    decide
  simp only [mediumKeysFrame, formatted, hlit, hval, multibulk, List.flatMap_cons, List.flatMap_nil,
    bulk, hkey, List.append_nil, List.append_assoc, List.length_cons, List.length_nil]
  rfl

theorem mediumKeysFrame_small : SmallFrames mediumKeysFrame := fun size count => by
  refine ⟨_, mediumKeysFrame_eq size count, by simp, by simp, ?_⟩
  have hkey : (ascii "key_" ++ padDecimal 4 (size % 1000)).length = 8 := by
    rw [List.length_append, padDecimal_length ((@decimal_length_le (size % 1000) 3 (by decide)
      (Nat.mod_lt _ (by decide))).trans (by decide))]
    rfl
  simp only [List.forall_mem_cons, List.forall_mem_nil, hkey]
  decide

/-- MIXED: GET, SET, DEL and MGET in turn. -/
theorem mixedFrame_small : SmallFrames mixedFrame := fun _ count => by
  have hkey := tagged_length (show (ascii "key_").length = 4 from rfl) count
  have hval := tagged_length (show (ascii "val_").length = 4 from rfl) count
  rcases (by omega : count % 4 = 0 ∨ count % 4 = 1 ∨ count % 4 = 2 ∨ count % 4 = 3) with h | h | h | h
  · exact ⟨_, by simp only [mixedFrame, h, formatted]; exact keyCommand_eq (by rfl) get_lit count,
      smallCommand_keyCommand (by rfl) count⟩
  · have hlit : ascii "*3\r\n$3\r\nSET\r\n$6\r\nkey_" = lengthLine 42 3 ++
        (lengthLine 36 3 ++ (ascii "SET" ++ ([13, 10] ++ (lengthLine 36 6 ++ ascii "key_")))) := by
      simp only [lengthLine, decimal_of_lt (by decide : 3 < 10), decimal_of_lt (by decide : 6 < 10)]
      decide
    have hlit' : ascii "\r\n$6\r\nval_" = [13, 10] ++ (lengthLine 36 6 ++ ascii "val_") := by
      simp only [lengthLine, decimal_of_lt (by decide : 6 < 10)]
      decide
    refine ⟨[ascii "SET", ascii "key_" ++ padDecimal 2 (count % 100),
      ascii "val_" ++ padDecimal 2 (count % 100)], ?_, by simp, by simp, ?_⟩
    · simp only [mixedFrame, h, formatted, hlit, hlit', multibulk, List.flatMap_cons,
        List.flatMap_nil, bulk, hkey, hval, List.append_nil, List.append_assoc, List.length_cons,
        List.length_nil]
      rfl
    · simp only [List.forall_mem_cons, List.forall_mem_nil, hkey, hval]
      decide
  · have hlit : ascii "*2\r\n$3\r\nDEL\r\n$6\r\nkey_" = lengthLine 42 2 ++
        (lengthLine 36 3 ++ (ascii "DEL" ++ ([13, 10] ++ (lengthLine 36 6 ++ ascii "key_")))) := by
      simp only [lengthLine, decimal_of_lt (by decide : 2 < 10), decimal_of_lt (by decide : 3 < 10),
        decimal_of_lt (by decide : 6 < 10)]
      decide
    exact ⟨_, by simp only [mixedFrame, h, formatted]; exact keyCommand_eq (by rfl) hlit count,
      smallCommand_keyCommand (by rfl) count⟩
  · refine ⟨[ascii "MGET", ascii "key_0", ascii "key_1", ascii "key_2"], ?_, by decide⟩
    simp only [mixedFrame, h, formatted, List.append_nil, multibulk, List.flatMap_cons,
      List.flatMap_nil, bulk, List.length_cons, List.length_nil,
      show (ascii "MGET").length = 4 from rfl, show (ascii "key_0").length = 5 from rfl,
      show (ascii "key_1").length = 5 from rfl, show (ascii "key_2").length = 5 from rfl,
      lengthLine, decimal_of_lt (by decide : 4 < 10), decimal_of_lt (by decide : 5 < 10)]
    decide

/-- The generator's loop over a format of small commands appends their frames: the workload
stays a sequence of small commands. -/
theorem generateLoop_commands {target margin : Nat} {frame : Nat → Nat → Formatted}
    (hframe : SmallFrames frame) {count : Nat} {data : List UInt8} :
    ∀ {cmds : List (List (List UInt8))}, data = (cmds.map multibulk).flatten →
      (∀ args ∈ cmds, SmallCommand args) →
      ∃ cmds' : List (List (List UInt8)), (∀ args ∈ cmds', SmallCommand args) ∧
        generateLoop target margin frame count data = (cmds'.map multibulk).flatten := by
  induction count, data using generateLoop.induct target margin frame with
  | case1 count data h₁ h₂ =>
    intro cmds hdata hsmall
    exact ⟨cmds, hsmall, by rw [generateLoop, if_pos h₁, if_pos h₂, hdata]⟩
  | case2 count data h₁ hfit ih =>
    intro cmds hdata hsmall
    obtain ⟨args, hf, hs⟩ := hframe data.length count
    rw [generateLoop, if_pos h₁, if_neg hfit]
    refine @ih (cmds ++ [args]) ?_ ?_
    · rw [hf, hdata]
      simp only [List.map_append, List.map_cons, List.map_nil, List.flatten_append,
        List.flatten_cons, List.flatten_nil, List.append_nil]
    · intro a ha
      rcases List.mem_append.1 ha with ha | ha
      · exact hsmall a ha
      · rw [List.mem_singleton.1 ha]; exact hs
  | case3 count data h₁ =>
    intro cmds hdata hsmall
    exact ⟨cmds, hsmall, by rw [generateLoop, if_neg h₁, hdata]⟩

/-- Every SMALL_KEYS, MEDIUM_KEYS and MIXED workload is a sequence of small commands. -/
theorem workloadGenerateSynthetic_commands {target : Nat} {ty : WorkloadType}
    (hty : ty ≠ .largeValues) {wl : List UInt8} (hwl : workloadGenerateSynthetic target ty = some wl) :
    ∃ cmds : List (List (List UInt8)), (∀ args ∈ cmds, SmallCommand args) ∧
      wl = (cmds.map multibulk).flatten := by
  have hnil : ([] : List UInt8) = (([] : List (List (List UInt8))).map multibulk).flatten := rfl
  cases ty with
  | file => cases hwl
  | largeValues => exact absurd rfl hty
  | smallKeys =>
    obtain ⟨cmds, hs, h⟩ := generateLoop_commands smallKeysFrame_small hnil (by simp)
    exact ⟨cmds, hs, (Option.some.inj hwl).symm.trans h⟩
  | mediumKeys =>
    obtain ⟨cmds, hs, h⟩ := generateLoop_commands mediumKeysFrame_small hnil (by simp)
    exact ⟨cmds, hs, (Option.some.inj hwl).symm.trans h⟩
  | mixed =>
    obtain ⟨cmds, hs, h⟩ := generateLoop_commands mixedFrame_small hnil (by simp)
    exact ⟨cmds, hs, (Option.some.inj hwl).symm.trans h⟩

/-- A replay of the frames of small commands counts every command and every byte. -/
theorem benchmarkRespParsing_smallCommands {cmds : List (List (List UInt8))}
    (hsmall : ∀ args ∈ cmds, SmallCommand args) {fuel : Nat} (iterations : Nat)
    (hfuel : cmds.length < fuel) :
    benchmarkRespParsing fuel (cmds.map multibulk).flatten iterations = .ret 1
      ⟨iterations * cmds.length % wordMod, iterations * (cmds.map multibulk).flatten.length % wordMod⟩ := by
  rw [benchmarkRespParsing, iterationLoop_frames (fun a ha => (hsmall a ha).wellSized) (.inl rfl)
    (fun _ a ha => (hsmall a (List.mem_of_mem_getLast? ha)).not_capturesLast []) hfuel iterations _ _
    (List.append_nil _).symm rfl (by decide) (by decide), Nat.zero_add, Nat.zero_add]

/-- `benchmark_resp_parsing` on a SMALL_KEYS, MEDIUM_KEYS or MIXED workload: the workload is the
frames of its commands, and with a turn per command and one more the replay returns 1 having
counted every command and every byte of the workload in each iteration, modulo `2^64`. -/
theorem benchmarkRespParsing_synthetic (target : Nat) {ty : WorkloadType} (hty : ty ≠ .largeValues)
    {wl : List UInt8} (hwl : workloadGenerateSynthetic target ty = some wl) :
    ∃ cmds : List (List (List UInt8)), wl = (cmds.map multibulk).flatten ∧
      ∀ fuel iterations, cmds.length < fuel → benchmarkRespParsing fuel wl iterations =
        .ret 1 ⟨iterations * cmds.length % wordMod, iterations * wl.length % wordMod⟩ := by
  obtain ⟨cmds, hsmall, rfl⟩ := workloadGenerateSynthetic_commands hty hwl
  exact ⟨cmds, rfl, fun _ iterations hfuel => benchmarkRespParsing_smallCommands hsmall iterations hfuel⟩

theorem benchmarkRespParsing_synthetic_mixed :
    WorkloadType.mixed ≠ .largeValues ∧
    ∃ cmds : List (List (List UInt8)), generateLoop 1000 200 mixedFrame 0 [] = (cmds.map multibulk).flatten ∧
      ∀ fuel iterations, cmds.length < fuel →
        benchmarkRespParsing fuel (generateLoop 1000 200 mixedFrame 0 []) iterations =
          .ret 1 ⟨iterations * cmds.length % wordMod,
            iterations * (generateLoop 1000 200 mixedFrame 0 []).length % wordMod⟩ :=
  ⟨by decide, @benchmarkRespParsing_synthetic 1000 .mixed (by decide) _ rfl⟩

end ProtocolBench.Resp
