import ProtocolBench.Respb.Safety

/-!
Where `respb_parse_command` leaves the cursor when it returns 0. The header is consumed before
the case of the opcode checks its payload, and `READ_STRING_2B` and `READ_STRING_4B` consume the
length prefix before they check the bytes it announces, so an incomplete parse leaves `pos`
unchanged only when the header itself is incomplete. Otherwise the cursor has moved past the
header, and past every field the case read before it found the buffer short.
-/

namespace ProtocolBench.Respb
open ParseM

/-- A GET frame cut inside its key length: the header is read, then `READ_STRING_2B` finds fewer
than two bytes and returns 0 from the state past the header. -/
theorem parseCommand_getPrefixTruncated (parser : RespbParser) (cmd : RespbCommand)
    (hop : (ParseState.start parser cmd).frameOpcode = Op.get.code)
    (hhdr : parser.pos + 4 ≤ parser.bufferLen) (htrunc : parser.bufferLen < parser.pos + 6) :
    parseCommand (.start parser cmd) = .error .incomplete (ParseState.start parser cmd).payloadState := by
  set s := (ParseState.start parser cmd).payloadState
  have hpay : parsePayload .get s = .error .incomplete s := by
    show (readString2B 0 >>= fun _ => setArgc 1) s = _
    rw [bind_apply, readString2B_apply,
      if_pos (by simp only [s, ParseState.payloadState, ParseState.start]; omega)]
  rw [parseCommand_apply, if_neg (by simp only [ParseState.start]; omega), hop, Op.ofCode_code]
  dsimp only
  rw [hpay]

/-- A GET frame whose buffer ends inside the key length prefix: the call returns 0 with the
cursor 4 bytes on, past the header it consumed. -/
theorem respbParseCommand_getTruncatedMovesCursor (parser : RespbParser) (cmd : RespbCommand)
    (hop : (ParseState.start parser cmd).frameOpcode = Op.get.code)
    (hhdr : parser.pos + 4 ≤ parser.bufferLen) (htrunc : parser.bufferLen < parser.pos + 6) :
    respbParseCommand parser cmd =
      some (0, { parser with pos := parser.pos + 4 }, (ParseState.start parser cmd).payloadState.cmd) :=
  respbParseCommand_of_incomplete (parseCommand_getPrefixTruncated parser cmd hop hhdr htrunc)

theorem respbParseCommand_getTruncatedMovesCursor_header :
    respbParseCommand (respbParserInit (fun _ => 0) 4) default =
      some (0, { respbParserInit (fun _ => 0) 4 with pos := 4 },
        (ParseState.start (respbParserInit (fun _ => 0) 4) default).payloadState.cmd) :=
  respbParseCommand_getTruncatedMovesCursor _ _ rfl (by decide) (by decide)

/-- Every incomplete parse: the cursor is where it was exactly when the header is incomplete,
and past the header otherwise. -/
theorem respbParseCommand_incompleteCursor {parser p' : RespbParser} {cmd cmd' : RespbCommand}
    (h : respbParseCommand parser cmd = some (0, p', cmd')) :
    if parser.bufferLen < parser.pos + 4 then p'.pos = parser.pos else parser.pos + 4 ≤ p'.pos := by
  unfold respbParseCommand at h
  rw [parseCommand_apply] at h
  have hcond : (ParseState.start parser cmd).pos + 4 > (ParseState.start parser cmd).bufferLen ↔
      parser.bufferLen < parser.pos + 4 := Iff.rfl
  by_cases hhdr : parser.bufferLen < parser.pos + 4
  · rw [if_pos (hcond.2 hhdr)] at h
    simp only [Option.some.injEq, Prod.mk.injEq] at h
    rw [if_pos hhdr, ← h.2.1]
    rfl
  rw [if_neg (mt hcond.1 hhdr)] at h
  rw [if_neg hhdr]
  cases hop : Op.ofCode (ParseState.start parser cmd).frameOpcode with
  | none => simp only [hop, Option.some.injEq, Prod.mk.injEq] at h; cases h.1
  | some op =>
    have hp : (ParseState.start parser cmd).payloadState.pos ≤
        (ParseState.start parser cmd).payloadState.bufferLen := by
      simp only [ParseState.payloadState, ParseState.start]
      omega
    have hrun := (safe_parsePayload op).run _ hp
    simp only [hop] at h
    revert hrun h
    cases parsePayload op (ParseState.start parser cmd).payloadState with
    | ok _ t => simp
    | error e t =>
      intro hrun h
      cases e with
      | incomplete =>
        simp only [Option.some.injEq, Prod.mk.injEq] at h
        rw [← h.2.1]
        exact hrun.2
      | _ => simp at h

theorem respbParseCommand_incompleteCursor_getHeader :
    respbParseCommand (respbParserInit (fun _ => 0) 4) default =
      some (0, { respbParserInit (fun _ => 0) 4 with pos := 4 },
        (ParseState.start (respbParserInit (fun _ => 0) 4) default).payloadState.cmd) ∧
    if (respbParserInit (fun _ => 0) 4).bufferLen < (respbParserInit (fun _ => 0) 4).pos + 4 then
      ({ respbParserInit (fun _ => 0) 4 with pos := 4 } : RespbParser).pos =
        (respbParserInit (fun _ => 0) 4).pos
    else (respbParserInit (fun _ => 0) 4).pos + 4 ≤
      ({ respbParserInit (fun _ => 0) 4 with pos := 4 } : RespbParser).pos :=
  have h := respbParseCommand_of_incomplete
    (parseCommand_getPrefixTruncated (respbParserInit (fun _ => 0) 4) default rfl (by decide) (by decide))
  ⟨h, respbParseCommand_incompleteCursor h⟩

end ProtocolBench.Respb
