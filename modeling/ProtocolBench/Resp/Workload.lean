import ProtocolBench.Resp.Driver

/-!
`workload_generate_synthetic` of `workload.c`. Each workload type appends `snprintf`-formatted
RESP commands to a buffer while `size + margin < target_size`, and copies a command only when it
fits. The key of a LARGE_VALUES command is `largekey%zu` of `size % 100`, under a fixed length
line `$9`: the key has ten bytes from the second command on, since the first command is 1061
bytes long. The parser then reads nine bytes of the key, skips the tenth and the `'\r'` as the
CRLF, and finds `'\n'` where the next length line should start.
-/

namespace ProtocolBench.Resp

/-- The bytes of an ASCII string literal of the source. -/
def ascii (s : String) : List UInt8 := s.toList.map fun ch => ch.toNat.toUInt8

/-- `workload_type_t`. -/
inductive WorkloadType where
  | file
  | smallKeys
  | mediumKeys
  | largeValues
  | mixed
  deriving DecidableEq, Repr

/-- The bytes `snprintf` formats for one command: a literal start, never empty, then the rest. -/
abbrev Formatted := { f : List UInt8 // f ≠ [] }

def formatted (lit : String) (h : ascii lit ≠ []) (rest : List UInt8) : Formatted :=
  ⟨ascii lit ++ rest, List.append_ne_nil_of_left_ne_nil h rest⟩

/-- `while (wl->size + margin < target_size)`: format the command for the size so far and the
number of commands, and copy it when it fits; stop at the first that does not. -/
def generateLoop (target margin : Nat) (frame : Nat → Nat → Formatted) (count : Nat)
    (data : List UInt8) : List UInt8 :=
  if data.length + margin < target then
    if data.length + (frame data.length count).1.length > target then data
    else generateLoop target margin frame (count + 1) (data ++ (frame data.length count).1)
  else data
termination_by target - data.length
decreasing_by
  have := List.length_pos.2 (frame data.length count).2
  simp only [List.length_append]
  omega

/-- SMALL_KEYS: `"*2\r\n$3\r\nGET\r\n$6\r\nkey_%02zu\r\n"` of `wl->size % 100`. -/
def smallKeysFrame (size _count : Nat) : Formatted :=
  formatted "*2\r\n$3\r\nGET\r\n$6\r\nkey_" (by decide) (padDecimal 2 (size % 100) ++ ascii "\r\n")

/-- `value_50`: fifty `'X'`. -/
def value50 : List UInt8 := List.replicate 50 88

/-- MEDIUM_KEYS: `"*3\r\n$3\r\nSET\r\n$8\r\nkey_%04zu\r\n$50\r\n%s\r\n"` of `wl->size % 1000`
and `value_50`. -/
def mediumKeysFrame (size _count : Nat) : Formatted :=
  formatted "*3\r\n$3\r\nSET\r\n$8\r\nkey_" (by decide)
    (padDecimal 4 (size % 1000) ++ (ascii "\r\n$50\r\n" ++ (value50 ++ ascii "\r\n")))

/-- `large_value`: 1024 `'X'`. -/
def largeValue : List UInt8 := List.replicate 1024 88

/-- LARGE_VALUES: the header `"*3\r\n$3\r\nSET\r\n$9\r\nlargekey%zu\r\n$1024\r\n"` of
`wl->size % 100`, then `large_value` and `"\r\n"`, copied only when all of it fits. -/
def largeValuesFrame (size _count : Nat) : Formatted :=
  formatted "*3\r\n$3\r\nSET\r\n$9\r\nlargekey" (by decide)
    (decimal (size % 100) ++ (ascii "\r\n$1024\r\n" ++ (largeValue ++ ascii "\r\n")))

/-- MIXED: GET, SET, DEL and MGET in turn, keyed by `cmd_count % 100`. -/
def mixedFrame (_size count : Nat) : Formatted :=
  match count % 4 with
  | 0 => formatted "*2\r\n$3\r\nGET\r\n$6\r\nkey_" (by decide)
      (padDecimal 2 (count % 100) ++ ascii "\r\n")
  | 1 => formatted "*3\r\n$3\r\nSET\r\n$6\r\nkey_" (by decide)
      (padDecimal 2 (count % 100) ++ (ascii "\r\n$6\r\nval_" ++ (padDecimal 2 (count % 100) ++
        ascii "\r\n")))
  | 2 => formatted "*2\r\n$3\r\nDEL\r\n$6\r\nkey_" (by decide)
      (padDecimal 2 (count % 100) ++ ascii "\r\n")
  | _ => formatted "*4\r\n$4\r\nMGET\r\n$5\r\nkey_0\r\n$5\r\nkey_1\r\n$5\r\nkey_2\r\n" (by decide) []

/-- `workload_generate_synthetic(target_size, type)`: the bytes of the workload, or `none`
(`NULL`) for a type with no generator. Allocation failure is not modelled. -/
def workloadGenerateSynthetic (target : Nat) : WorkloadType → Option (List UInt8)
  | .smallKeys => some (generateLoop target 100 smallKeysFrame 0 [])
  | .mediumKeys => some (generateLoop target 200 mediumKeysFrame 0 [])
  | .largeValues => some (generateLoop target 1100 largeValuesFrame 0 [])
  | .mixed => some (generateLoop target 200 mixedFrame 0 [])
  | .file => none

section Loop

variable {target margin count : Nat} {frame : Nat → Nat → Formatted} {data : List UInt8}

/-- A turn of the loop that copies the command. -/
theorem generateLoop_of_fits (h : data.length + margin < target)
    (hfit : data.length + (frame data.length count).1.length ≤ target) :
    generateLoop target margin frame count data =
      generateLoop target margin frame (count + 1) (data ++ (frame data.length count).1) := by
  rw [generateLoop, if_pos h, if_neg (by omega)]

/-- The loop only appends. -/
theorem prefix_generateLoop : data <+: generateLoop target margin frame count data := by
  induction count, data using generateLoop.induct target margin frame with
  | case1 count data _ _ => rw [generateLoop, if_pos ‹_›, if_pos ‹_›]
  | case2 count data h hfit ih =>
    rw [generateLoop, if_pos h, if_neg hfit]
    exact (List.prefix_append _ _).trans ih
  | case3 count data h => rw [generateLoop, if_neg h]

end Loop

section LargeValues

/-- A LARGE_VALUES command laid out as the parser cuts it: the count line, `SET`, the key under
its length line `$9`, and the value under `$1024`. -/
theorem largeValuesFrame_eq (size count : Nat) :
    (largeValuesFrame size count).1 =
      lengthLine 42 3 ++ (lengthLine 36 3 ++ (ascii "SET" ++ [13, 10] ++ (lengthLine 36 9 ++
        (ascii "largekey" ++ (decimal (size % 100) ++ ([13, 10] ++ (lengthLine 36 1024 ++
          (largeValue ++ [13, 10])))))))) := by
  have h₁ : ascii "*3\r\n$3\r\nSET\r\n$9\r\nlargekey" =
      lengthLine 42 3 ++ (lengthLine 36 3 ++ (ascii "SET" ++ [13, 10] ++ (lengthLine 36 9 ++
        ascii "largekey"))) := by
    simp only [lengthLine, decimal_of_lt (show 3 < 10 by decide), decimal_of_lt (show 9 < 10 by decide)]
    decide
  have h₂ : ascii "\r\n$1024\r\n" = [13, 10] ++ lengthLine 36 1024 := by
    simp [lengthLine, decimal, digitByte]; decide
  simp only [largeValuesFrame, formatted, h₁, h₂, List.append_assoc]
  rfl

/-- The first LARGE_VALUES commands, at sizes whose remainder by 100 has one digit, are
well-formed frames. -/
theorem largeValuesFrame_of_lt {size : Nat} (count : Nat) (h : size % 100 < 10) :
    (largeValuesFrame size count).1 =
      multibulk [ascii "SET", ascii "largekey" ++ decimal (size % 100), largeValue] := by
  have hkey : (ascii "largekey" ++ decimal (size % 100)).length = 9 := by
    rw [List.length_append, decimal_of_lt h]; rfl
  have hset : (ascii "SET").length = 3 := rfl
  have hval : largeValue.length = 1024 := List.length_replicate _ _
  rw [largeValuesFrame_eq, multibulk]
  simp only [List.flatMap_cons, List.flatMap_nil, bulk, hkey, hset, hval, List.append_nil,
    List.append_assoc, List.length_cons, List.length_nil]

/-- A LARGE_VALUES command whose key has two digits after `largekey`, at the cursor of an idle
client: the parser stores `SET` and the first nine bytes of the key, takes the tenth byte and
the `'\r'` for the CRLF, and finds `'\n'` where the value's length line starts. The call
returns -1. -/
theorem valkeyParseCommand_longKey {d : ValkeyClient} {size count : Nat} {R : List UInt8}
    (hm : d.multibulklen = 0) (hargc : d.argc = 0) (hreq : d.reqtype = 0)
    (hrep : d.isReplicated = false) (hauth : d.authRequired = false) (hkey : 10 ≤ size % 100)
    (hrest : d.rest = (largeValuesFrame size count).1 ++ R) :
    ∃ d', valkeyParseCommand d = .ok (-1) d' := by
  have hdec : decimal (size % 100) = [digitByte (size % 100 / 10), digitByte (size % 100 % 10)] := by
    rw [decimal_of_ge (by omega), decimal_of_lt (by omega)]; rfl
  set T := lengthLine 36 1024 ++ (largeValue ++ [13, 10]) ++ R
  have hT : T = 36 :: decimal 1024 ++ 13 :: 10 :: (largeValue ++ [13, 10] ++ R) :=
    (List.append_assoc _ _ _).trans (lengthLine_append _ _ _)
  have hstar : d.rest = lengthLine 42 3 ++ (lengthLine 36 3 ++ (ascii "SET" ++ [13, 10] ++
      (lengthLine 36 9 ++ (ascii "largekey" ++ (decimal (size % 100) ++ ([13, 10] ++ T)))))) := by
    rw [hrest, largeValuesFrame_eq]; simp [T]
  have hSET : (ascii "SET" ++ [13, 10]).length = 3 + 2 := rfl
  set d₀ : ValkeyClient := { d with reqtype := protoReqMultibulk }
  have hline := @readMultibulkLen_line d₀ 3 _ hargc hstar (by decide) (by decide) hauth
  set c₄ : ValkeyClient :=
    { d₀ with
      qbPos := d₀.qbPos + (lengthLine 42 3).length
      multibulklen := (3 : Nat)
      bulklen := -1
      argv := fun _ => []
      argvLen := min ((3 : Nat) : Int) 1024
      argvLenSum := 0
      netInputBytesCurrCmd := d₀.netInputBytesCurrCmd + (lengthLine 42 3).length
      declared := (3 : Nat) } with hc₄
  have h₄ : c₄.rest = lengthLine 36 3 ++ (ascii "SET" ++ [13, 10] ++
      (lengthLine 36 9 ++ (ascii "largekey" ++ (decimal (size % 100) ++ ([13, 10] ++ T))))) := by
    show d.querybuf.drop (d.qbPos + _) = _
    rw [← List.drop_drop, ← ValkeyClient.rest, hstar, List.drop_left]
  obtain ⟨c₅, hturn₅, hst₅, hcons₅, -, -, -⟩ :=
    @bulkTurn_line c₄ 3 _ rfl (by simp [c₄, hargc]) (by simp [c₄]) (by simp [c₄, hargc, intMax])
      (by simp [c₄, intMax]) h₄ (by rw [List.length_append, hSET]; omega)
      (by decide) hrep hauth
  have h₅ : c₅.rest = lengthLine 36 9 ++
      (ascii "largekey" ++ (decimal (size % 100) ++ ([13, 10] ++ T))) := by
    rw [hcons₅.rest_eq, h₄, List.drop_append, List.drop_left' hSET]
  have hkey₉ : (ascii "largekey" ++ [digitByte (size % 100 / 10), digitByte (size % 100 % 10), 13]).length
      = 9 + 2 := rfl
  have hX₅ : ascii "largekey" ++ (decimal (size % 100) ++ ([13, 10] ++ T)) =
      (ascii "largekey" ++ [digitByte (size % 100 / 10), digitByte (size % 100 % 10), 13]) ++
        (10 :: T) := by
    rw [hdec]; simp
  have hflags₅ : c₅.readFlags = d.readFlags := hst₅.readFlags
  obtain ⟨c₆, hturn₆, hst₆, hcons₆, -, -, -⟩ :=
    @bulkTurn_line c₅ 9 _ hst₅.bulklen (by rw [hst₅.argc]; simp [c₄, hargc])
      (by rw [hst₅.multibulklen]; simp [c₄]) (by rw [hst₅.argc, hst₅.multibulklen]; simp [c₄, hargc, intMax])
      hst₅.argvLen_le h₅ (by rw [hX₅, List.length_append, hkey₉]; omega) (by decide)
      (by rw [ValkeyClient.isReplicated, hflags₅]; exact hrep)
      (by rw [ValkeyClient.authRequired, hflags₅]; exact hauth)
  have h₆ : c₆.rest = 10 :: (36 :: decimal 1024 ++ 13 :: 10 :: (largeValue ++ [13, 10] ++ R)) := by
    rw [hcons₆.rest_eq, h₅, List.drop_append, hX₅, List.drop_left' hkey₉, hT]
  have hbad := readBulkLen_unexpected (by decide) (by simp [cr_not_mem_decimal]) h₆
  have hloop : bulkLoop 3 c₄ = .ok (.ret readFlagsErrorMbulkUnexpectedCharacter) c₆ := by
    have hm₅ : c₅.multibulklen = 2 := by rw [hst₅.multibulklen]; rfl
    have hm₆ : c₆.multibulklen = 1 := by rw [hst₆.multibulklen, hm₅]; rfl
    rw [bulkLoop]; dsimp only
    rw [if_neg (by decide), hturn₅]; dsimp only
    rw [bulkLoop]; dsimp only
    rw [if_neg (by rw [hm₅]; decide), hturn₆]; dsimp only
    rw [bulkLoop]; dsimp only
    rw [if_neg (by rw [hm₆]; decide), bulkTurn, if_pos hst₆.bulklen, hbad]
  have hpm : parseMultibulk d₀ = .ok readFlagsErrorMbulkUnexpectedCharacter c₆ := by
    rw [parseMultibulk, if_pos hm, hline]
    dsimp only
    rw [if_pos (by decide), show c₄.multibulklen.toNat = 3 from rfl, hloop]
  rw [valkeyParseCommand_of_star hreq (hstar.trans rfl), RespM.bind_of_ok hpm, reportFlag,
    if_neg (by decide), if_pos (by decide)]
  exact ⟨_, rfl⟩

theorem largeValuesFrame_length (size count : Nat) :
    (largeValuesFrame size count).1.length = 1060 + (decimal (size % 100)).length := by
  simp only [largeValuesFrame, formatted, List.length_append, largeValue, List.length_replicate]
  rw [show (ascii "*3\r\n$3\r\nSET\r\n$9\r\nlargekey").length = 25 from rfl,
    show (ascii "\r\n$1024\r\n").length = 9 from rfl, show (ascii "\r\n").length = 2 from rfl]
  omega

theorem largeValuesFrame_length_first : (largeValuesFrame 0 0).1.length = 1061 := by
  rw [largeValuesFrame_length, decimal_of_lt (by decide)]; rfl

theorem largeValuesFrame_length_second : (largeValuesFrame 1061 1).1.length = 1062 := by
  rw [largeValuesFrame_length, show 1061 % 100 = 61 from rfl, decimal_of_ge (by decide),
    decimal_of_lt (by decide)]; rfl

/-- A LARGE_VALUES workload with room for more than one command starts with the commands of
counts 0 and 1, at sizes 0 and 1061. -/
theorem largeValues_firstTwoFrames (target : Nat) (htarget : 2161 < target) :
    ∃ W, workloadGenerateSynthetic target .largeValues = some W ∧
      (largeValuesFrame 0 0).1 ++ (largeValuesFrame 1061 1).1 <+: W := by
  have hl₀ := largeValuesFrame_length_first
  have hgen : generateLoop target 1100 largeValuesFrame 0 [] =
      generateLoop target 1100 largeValuesFrame 2
        ((largeValuesFrame 0 0).1 ++ (largeValuesFrame 1061 1).1) := by
    rw [generateLoop_of_fits (by simp; omega) (by simp [hl₀]; omega)]
    rw [generateLoop_of_fits (by simp [hl₀]; omega)
      (by simp [hl₀, largeValuesFrame_length_second]; omega)]
    simp [hl₀]
  exact ⟨_, rfl, hgen ▸ prefix_generateLoop⟩

/-- Replaying a buffer that starts with those two commands: the first is counted, the parser
rejects the second, and the replay stops with 0 after its first iteration. -/
theorem benchmarkRespParsing_largeValues (R : List UInt8) {fuel iterations : Nat}
    (hfuel : 2 ≤ fuel) (hI : 0 < iterations) :
    benchmarkRespParsing fuel ((largeValuesFrame 0 0).1 ++ (largeValuesFrame 1061 1).1 ++ R)
      iterations = .ret 0 ⟨1, 1061⟩ := by
  set W := (largeValuesFrame 0 0).1 ++ (largeValuesFrame 1061 1).1 ++ R with hW
  obtain ⟨i, rfl⟩ : ∃ i, iterations = i + 1 := ⟨iterations - 1, by omega⟩
  obtain ⟨f, rfl⟩ : ∃ f, fuel = f + 1 + 1 := ⟨fuel - 2, by omega⟩
  have hWlen : 2123 ≤ W.length := by
    simp [hW, largeValuesFrame_length_first, largeValuesFrame_length_second]; omega
  have hf₀ := largeValuesFrame_of_lt 0 (show 0 % 100 < 10 by decide)
  have hf₁ : (largeValuesFrame 1061 1).1 ≠ [] := (largeValuesFrame 1061 1).2
  obtain ⟨c', hp, -, -, hrest', -, hm', -, hreq', hflags', hcons', hkept', -⟩ :=
    @valkeyParseCommand_frame (valkeyClientInit W)
      [ascii "SET", ascii "largekey" ++ decimal (0 % 100), largeValue] ((largeValuesFrame 1061 1).1 ++ R)
      rfl rfl rfl (ValkeyClient.isReplicated_init _) (ValkeyClient.authRequired_init _)
      (by decide) (by decide)
      (by
        intro a ha
        simp only [List.mem_cons, List.mem_singleton, List.not_mem_nil, or_false] at ha
        rcases ha with rfl | rfl | rfl
        · decide
        · rw [List.length_append, decimal_of_lt (by decide)]; decide
        · rw [largeValue, List.length_replicate]; decide)
      (by rw [ValkeyClient.rest, ← hf₀, hW, List.append_assoc]; rfl)
  obtain ⟨hq', hpeak'⟩ := hkept' fun h => hf₁ (List.append_eq_nil.1 h.1).1
  have hpos' : c'.qbPos = 1061 := by
    rw [hcons'.qbPos_of_kept hq', ← hf₀, largeValuesFrame_length_first]; rfl
  have hflags : (resetCommand c').readFlags = readFlagsParsingCompleted := by
    rw [resetCommand, hflags']; exact Nat.zero_or _
  obtain ⟨d', hp₂⟩ := @valkeyParseCommand_longKey (resetCommand c') 1061 1 R hm' rfl hreq'
    (by rw [ValkeyClient.isReplicated, hflags]; decide)
    (by rw [ValkeyClient.authRequired, hflags]; decide) (by decide) hrest'
  have hpeak : c'.querybufPeak = W.length := hpeak'
  rw [benchmarkRespParsing, iterationLoop,
    show resetIteration (valkeyClientInit W) = valkeyClientInit W from rfl, commandLoop,
    if_pos (show (valkeyClientInit W).qbPos < (valkeyClientInit W).querybufPeak by
      simp only [valkeyClientInit]; omega), hp]
  dsimp only
  rw [if_pos rfl, commandLoop, if_pos (show (resetCommand c').qbPos < (resetCommand c').querybufPeak by
    simp only [resetCommand]; omega), hp₂]
  dsimp only
  rw [if_neg (by decide), if_neg (by decide)]
  simp [Metrics.count, valkeyClientInit, hpos', wordMod]

/-- Every LARGE_VALUES workload of more than one command: its second command, keyed
`largekey61` under `$9`, is rejected by the parser, and the replay stops with 0 after counting
the first command. -/
theorem largeValues_secondCommandRejected (target : Nat) (htarget : 2161 < target) :
    ∃ W, workloadGenerateSynthetic target .largeValues = some W ∧
      (largeValuesFrame 0 0).1 ++ (largeValuesFrame 1061 1).1 <+: W ∧
      ∀ fuel, 2 ≤ fuel → ∀ iterations, 0 < iterations →
        benchmarkRespParsing fuel W iterations = .ret 0 ⟨1, 1061⟩ := by
  obtain ⟨W, hgen, R, rfl⟩ := largeValues_firstTwoFrames target htarget
  exact ⟨_, hgen, ⟨R, rfl⟩, fun _ hfuel _ hI => benchmarkRespParsing_largeValues R hfuel hI⟩

theorem largeValues_secondCommandRejected_3000 :
    ∃ W, workloadGenerateSynthetic 3000 .largeValues = some W ∧
      (largeValuesFrame 0 0).1 ++ (largeValuesFrame 1061 1).1 <+: W ∧
      ∀ fuel, 2 ≤ fuel → ∀ iterations, 0 < iterations →
        benchmarkRespParsing fuel W iterations = .ret 0 ⟨1, 1061⟩ :=
  largeValues_secondCommandRejected 3000 (by decide)

end LargeValues

end ProtocolBench.Resp
