import TidyCsv.Proofs.Encoding.CodePage
import TidyCsv.Proofs.Engine.Unquoted
import TidyCsv.Proofs.Mojibake.Repair
import TidyCsv.Proofs.Engine.Retry
import TidyCsv.Proofs.Run.Panels
import TidyCsv.Proofs.Run.Readiness
import TidyCsv.Proofs.Run.Recoding
import TidyCsv.Proofs.Run.Supply

/-! # When quotes are ignored

The warning that quotes were ignored is given only if the engine reports a fallback, which it never
does of a content without a quote. An ASCII character is decoded from its own byte only, and repair
leaves ASCII characters as they are, so a quote that the engine meets was in the input before. -/

namespace TidyCsv

open FileSystem Run

/-! ## ASCII characters of a decoded text -/

namespace CodePage

theorem bounds_of_mem_upperHalf (page : CodePage) :
    ∀ n ∈ page.upperHalf.toList, 0x80 ≤ n ∧ n < 0xD800 := by
  cases page <;> decide +kernel

/-- No page makes an ASCII character of a byte beyond ASCII. -/
theorem not_lt_of_decodeByte {page : CodePage} {b : UInt8} (hb : ¬ b < 0x80) :
    ¬ (page.decodeByte b).toNat < 0x80 := by
  have hhigh : 0x80 ≤ b.toNat := by
    rw [UInt8.lt_iff_toNat_lt] at hb
    simpa using hb
  have hbound := b.toNat_lt
  rw [decodeByte, if_neg hb, Array.getD_eq_getD_getElem?]
  cases hfound : page.upperHalf[b.toNat - 0x80]? with
  | none =>
      rw [Option.getD_none, Utf8.toNat_ofNat (by omega) (by omega)]
      omega
  | some n =>
      have hmem : n ∈ page.upperHalf.toList :=
        Array.mem_toList_iff.mpr (Array.mem_of_getElem? hfound)
      obtain ⟨hleast, hmost⟩ := page.bounds_of_mem_upperHalf n hmem
      rw [Option.getD_some, Utf8.toNat_ofNat (by omega) (by omega)]
      omega

end CodePage

namespace Utf16

theorem mem_encode {b : UInt8} (hb : b < 0x80) (order : ByteOrder) {text : List Char}
    (h : Char.ofNat b.toNat ∈ text) : b ∈ encode order text := by
  obtain ⟨hchar, hsmall⟩ := Utf8.toNat_ofNat_of_lt hb
  refine List.mem_flatMap.mpr ⟨_, h, ?_⟩
  have hbasic : b.toNat < 0x10000 := by omega
  have hmod : b.toNat % 256 = b.toNat := by omega
  rw [hchar]
  cases order <;> simp [unitsOfPoint, hbasic, ByteOrder.bytes, hmod]

end Utf16

namespace Transcoding

variable {b : UInt8}

theorem mem_of_mem_withoutMark {mark bytes : Bytes} (h : b ∈ withoutMark mark bytes) :
    b ∈ bytes := by
  unfold withoutMark at h
  split at h
  · exact List.mem_of_mem_drop h
  · exact h

/-- An ASCII character is decoded from its own byte only. -/
theorem Decoder.mem_of_decodes {decoder : Decoder} {content : Bytes} {text : List Char}
    (hb : b < 0x80) (hdecodes : decoder.Decodes content text) (h : Char.ofNat b.toNat ∈ text) :
    b ∈ content := by
  obtain ⟨hchar, hsmall⟩ := Utf8.toNat_ofNat_of_lt hb
  cases decoder with
  | utf8 =>
      have hmem : b ∈ Utf8.encode text := (Utf8.mem_encode_iff hb).mpr h
      rw [← (hdecodes : _ = Utf8.encode text)] at hmem
      exact mem_of_mem_withoutMark hmem
  | utf16 order =>
      have hmem : b ∈ Utf16.encode order text := Utf16.mem_encode hb order h
      rw [← (hdecodes : _ = Utf16.encode order text)] at hmem
      exact mem_of_mem_withoutMark hmem
  | codePage page =>
      obtain rfl : page.decode content = text := hdecodes
      obtain ⟨first, hfirst, hsame⟩ := List.mem_map.mp h
      have hlow : first < 0x80 := by
        by_contra hhigh
        exact CodePage.not_lt_of_decodeByte hhigh (by rw [hsame, hchar]; exact hsmall)
      rw [CodePage.decodeByte_of_lt hlow] at hsame
      have hnat := congrArg Char.toNat hsame
      rw [(Utf8.toNat_ofNat_of_lt hlow).1, hchar] at hnat
      rwa [← UInt8.toNat_inj.mp hnat]
  | privateBytes =>
      obtain rfl : content.map privateChar = text := hdecodes
      obtain ⟨first, hfirst, hsame⟩ := List.mem_map.mp h
      have hbound := first.toNat_lt
      have hnat := congrArg Char.toNat hsame
      unfold privateChar at hnat
      split at hnat
      · next hlow =>
          rw [(Utf8.toNat_ofNat_of_lt hlow).1, hchar] at hnat
          rwa [← UInt8.toNat_inj.mp hnat]
      · rw [hchar, Utf8.toNat_ofNat (by omega) (by omega)] at hnat
        omega
  | refuse =>
      obtain ⟨-, rfl⟩ : content = [] ∧ text = [] := hdecodes
      simp at h

end Transcoding

/-! ## What the engine reads of an input -/

namespace Resolution

variable {network : Network} {fs : FileSystem} {stdin : Stdin} {reference : InputReference}
  {sample : Option Nat} {label : String} {bytes content : Bytes} {b : UInt8}

/-- The content of an input before anything is decoded: that of a file, what is piped in, what an
archive decompresses to, or what is fetched. -/
def rawContent? (network : Network) (fs : FileSystem) (stdin : Stdin) :
    InputReference → Option Bytes
  | .file path => (fs.read path).toOption
  | .stdin =>
    match stdin with
    | .piped bytes => some bytes
    | .terminal => none
    | .broken _ => none
  | .compressed path .gzip => (fs.read path).toOption.bind fun bytes =>
    (BuiltIn.gunzip bytes).toOption
  | .compressed _ .zip => none
  | .remote url => (BuiltIn.loadRemote network url).toOption

theorem mem_of_converted? (hb : b < 0x80) (h : converted? label bytes = some content)
    (hmem : b ∈ content) : b ∈ bytes := by
  unfold converted? at h
  split at h
  · simp at h
  · next decoder hdecoder =>
      dsimp only at h
      split at h
      · next hdone =>
          obtain rfl := Option.some.inj h
          have hdecodes := Transcoding.Decoder.run_pieces_iff.mp
            (congrArg (Transcoding.Transcript.mk _) hdone)
          exact Transcoding.Decoder.mem_of_decodes hb hdecodes ((Utf8.mem_encode_iff hb).mp hmem)
      · simp at h

theorem mem_of_decoded? (hb : b < 0x80) (h : decoded? bytes = some content) (hmem : b ∈ content) :
    b ∈ bytes := by
  obtain ⟨label, -, hcontent⟩ := Option.bind_eq_some_iff.mp h
  unfold utf8Content? at hcontent
  split at hcontent
  · exact mem_of_converted? hb hcontent hmem
  · rwa [Option.some.inj hcontent]

theorem mem_of_repaired (hb : b < 0x80) (hmem : b ∈ repaired sample content) : b ∈ content := by
  cases sample with
  | none => exact hmem
  | some size =>
      simp only [repaired] at hmem
      cases hrepaired : Mojibake.repairContent? size content with
      | none => rwa [hrepaired] at hmem
      | some fixed =>
          rw [hrepaired, Option.getD_some] at hmem
          unfold Mojibake.repairContent? at hrepaired
          split at hrepaired
          · obtain ⟨text, htext, rfl⟩ := Option.map_eq_some_iff.mp hrepaired
            obtain ⟨before, hbefore, hfixed⟩ := Option.bind_eq_some_iff.mp htext
            obtain rfl := Utf8.decode?_eq_some_iff.mp hbefore
            obtain rfl : Mojibake.repair before = text := by simp [Mojibake.repair, hfixed]
            rw [Utf8.mem_encode_iff hb] at hmem ⊢
            obtain ⟨hchar, hsmall⟩ := Utf8.toNat_ofNat_of_lt hb
            have hascii : Char.ofNat b.toNat ∈
                (Mojibake.repair before).filter (·.toNat < 0x80) :=
              List.mem_filter.mpr ⟨hmem, by simpa [hchar] using hsmall⟩
            rw [(Mojibake.repairs_repair before).filter_ascii] at hascii
            exact (List.mem_filter.mp hascii).1
          · simp at hrepaired

/-- A byte of ASCII that the engine reads of an input was in the input before it was decoded. -/
theorem mem_of_content? (hb : b < 0x80)
    (h : content? network sample fs stdin reference = some content) (hmem : b ∈ content) :
    ∃ bytes, rawContent? network fs stdin reference = some bytes ∧ b ∈ bytes := by
  have hdecoded : ∀ {bytes : Bytes}, (decoded? bytes).map (repaired sample) = some content →
      b ∈ bytes := by
    intro bytes hcontent
    obtain ⟨found, hfound, rfl⟩ := Option.map_eq_some_iff.mp hcontent
    exact mem_of_decoded? hb hfound (mem_of_repaired hb hmem)
  cases reference with
  | file path =>
      obtain ⟨bytes, hbytes, hcontent⟩ := Option.bind_eq_some_iff.mp h
      exact ⟨bytes, hbytes, hdecoded hcontent⟩
  | stdin =>
      cases stdin with
      | terminal => simp [content?] at h
      | broken fault => simp [content?] at h
      | piped bytes => exact ⟨bytes, rfl, hdecoded h⟩
  | compressed path kind =>
      cases kind with
      | zip => simp [content?] at h
      | gzip => exact ⟨content, h, hmem⟩
  | remote url => exact ⟨content, h, hmem⟩

end Resolution

/-! ## Warnings -/

/-- The texts of the warnings that are no panels. -/
def warnings (events : List Event) : List String := events.filterMap Event.warning?

@[simp] theorem warnings_append (xs ys : List Event) :
    warnings (xs ++ ys) = warnings xs ++ warnings ys :=
  List.filterMap_append

theorem mem_warnings_iff {events : List Event} {text : String} :
    text ∈ warnings events ↔ Event.warning text ∈ events := by
  rw [warnings, List.mem_filterMap]
  constructor
  · rintro ⟨event, hevent, htext⟩
    cases event with
    | warning found =>
        obtain rfl : found = text := by simpa [Event.warning?] using htext
        exact hevent
    | panel severity title body => simp [Event.warning?] at htext
    | summary rows => simp [Event.warning?] at htext
  · intro h
    exact ⟨_, h, rfl⟩

theorem Policy.warnings_apply (outcome : Outcome) (settings : Settings) (reject : Path) :
    warnings (apply outcome settings reject).2 =
      if outcome.fallback.any (!·.strictMode) then [fallbackWarning] else [] := by
  have hpanel : ∀ decision, warnings (decisionPanel outcome settings reject decision) = [] := by
    intro decision
    cases decision with
    | proceed => rfl
    | proceedWithWarnings failAfter => rfl
    | halt success => cases success <;> rfl
  simp only [apply, warnings_append, hpanel, List.append_nil]
  split <;> rfl

namespace Session

variable {session : Session} {argument : String} {options : Options} {settings : Settings}
  {reference : InputReference} {start after last : World}

theorem warnings_failureEvents (failure : Failure) : warnings (failureEvents failure) = [] := by
  unfold failureEvents
  split <;> rfl

theorem warnings_eventsOf (result : Except Failure Unit) : warnings (eventsOf result) = [] := by
  cases result with
  | ok => rfl
  | error failure => exact warnings_failureEvents failure

theorem warnings_of_validation {engine : Engine} {source : Source} {read : ReadOptions}
    {staged reject : Path} {isRemote : Bool} {displayName : String}
    {result : Except Failure Outcome}
    (h : (Validation.run engine source read staged reject isRemote displayName).on start =
      (result, after)) : warnings after.events = warnings start.events := by
  rcases hresult : engine.validate start.files source read staged reject with ⟨message | report, fs⟩
  · rw [Validation.on_run_of_error hresult] at h
    obtain ⟨-, rfl⟩ := Prod.mk.inj h
    simp [warnings, Validation.failurePanel, Event.warning?]
  · rw [Validation.on_run_of_ok hresult] at h
    obtain ⟨-, rfl⟩ := Prod.mk.inj h
    rfl

theorem warnings_of_assess_error {failure : Failure}
    (h : (session.assess settings reference).on start = (.error failure, after)) :
    warnings after.events = warnings start.events := by
  have hresolve := resolve_silent_events reference settings (session.directory settings)
    reference.baseName
  rw [on_assess] at h
  split at h
  · next hfailed =>
      obtain ⟨-, rfl⟩ := Prod.mk.inj h
      exact congrArg warnings (hresolve.view_of_on hfailed :)
  · next resolved middle hresolved =>
      have hmiddle : middle.events = start.events := (hresolve.view_of_on hresolved :)
      split at h
      · next hfailed =>
          obtain ⟨-, rfl⟩ := Prod.mk.inj h
          rw [warnings_of_validation hfailed, hmiddle]
      · simp at h

theorem warnings_of_finish {resolved : Resolved} {outcome : Outcome} {staged reject : Path}
    {result : Except Failure Unit}
    (h : (finish session reference settings resolved outcome staged reject).on start =
      (result, after)) : warnings after.events = warnings start.events := by
  have hwrite := writeOutput_silent_events settings staged
  unfold finish at h
  rcases hresult : (writeOutput settings staged).on start with ⟨failure | stats, middle⟩
  · rw [on_bind_of_error hresult] at h
    obtain ⟨-, rfl⟩ := Prod.mk.inj h
    exact congrArg warnings (hwrite.view_of_on hresult)
  · rw [on_bind_of_ok hresult, on_files_bind, on_report] at h
    obtain ⟨-, rfl⟩ := Prod.mk.inj h
    rw [warnings_append, (hwrite.view_of_on hresult : middle.events = start.events)]
    simp [warnings, Event.warning?]

/-- Where an assessment has given a warning, it is that quotes were ignored. -/
theorem Assesses.of_warning {world : World} {resolved : Resolved} {outcome : Outcome}
    {judged : World} {text : String}
    (h : session.Assesses argument options world settings resolved outcome judged)
    (htext : text ∈ warnings judged.events) :
    text ∈ warnings world.events ∨
      text = Policy.fallbackWarning ∧ outcome.fallback.any (!·.strictMode) = true := by
  rw [h.events, warnings_append, Policy.warnings_apply] at htext
  rcases List.mem_append.mp htext with hbefore | hnew
  · exact .inl hbefore
  · split at hnew
    · next hfallback => exact .inr ⟨by simpa using hnew, hfallback⟩
    · simp at hnew

/-- The only warning that a run gives is that quotes were ignored. Its input has been assessed then,
with a fallback. -/
theorem Ends.of_warning {world : World} {result : Except Failure Unit} {text : String}
    (h : session.Ends argument options world result last) (htext : text ∈ warnings last.events) :
    text ∈ warnings world.events ∨ text = Policy.fallbackWarning ∧
      ∃ settings resolved outcome judged,
        session.Assesses argument options world settings resolved outcome judged ∧
        outcome.fallback.any (!·.strictMode) = true := by
  have hready := getReady_silent_events session argument options
  cases h with
  | refused hrefused => exact .inl (hready.view_of_on hrefused ▸ htext)
  | unassessed hstart hassess =>
      rw [tidied, warnings_of_assess_error hassess, hready.view_of_on hstart] at htext
      exact .inl htext
  | halted hassess hdecide =>
      exact (hassess.of_warning htext).imp_right fun hnew => ⟨hnew.1, _, _, _, _, hassess, hnew.2⟩
  | unwritten hassess hwrites hfinish | written hassess hwrites hfinish =>
      rw [tidied, warnings_of_finish hfinish] at htext
      exact (hassess.of_warning htext).imp_right fun hnew => ⟨hnew.1, _, _, _, _, hassess, hnew.2⟩

end Session

/-! ## The input of a run -/

theorem Validation.fallback_of_outcomeOf {report : EngineReport} {fs : FileSystem} {reject : Path}
    {outcome : Outcome} (h : outcomeOf report fs reject = .ok outcome) :
    outcome.fallback = report.fallback := by
  unfold outcomeOf at h
  split at h
  · simp at h
  · next count hcount =>
      dsimp only at h
      cases htypes : (if 1 < count then readErrorTypes fs reject else .ok []) with
      | error fault => simp [htypes, Except.map] at h
      | ok types =>
          simp only [htypes, Except.map, Except.ok.injEq] at h
          rw [← h]

/-- How much of a decoded content a run with these options searches for something to repair. -/
def Options.repairSample (options : Options) : Option Nat :=
  if options.checkOnly then none else options.mojibakeSample.filter (0 < ·)

theorem Options.repairSample_of_settings {options : Options} {home : Path} {baseName : String}
    {settings : Settings} (h : options.settings home baseName = .ok settings) :
    Resolution.repairSample settings = options.repairSample := by
  unfold Options.settings at h
  split at h
  · simp at h
  · obtain rfl := Except.ok.inj h
    rfl

namespace Session

variable {network : Network} {session : Session} {argument : String} {options : Options}
  {settings : Settings} {files : FileSystem} {stdin : Stdin} {disk : Disk} {start : World}

/-- A run that is ready has its input as it was. -/
theorem read_input_of_getReady
    (hready : (session.getReady argument options).on (.initial files stdin disk) =
      (.ok settings, start)) :
    ∀ path ∈ (InputReference.ofArgument argument).path?,
      (start.files.read path).toOption = (files.read path).toOption := by
  obtain ⟨hprepare, -⟩ := getReady_eq_ok_iff.mp hready
  obtain ⟨-, hchecked, -⟩ := prepare_eq_ok_iff.mp hprepare
  intro path hpath
  obtain ⟨content, hcontent⟩ := checkInput_eq_ok_iff.mp hchecked path hpath
  rw [read_of_getReady hready hpath hcontent]
  exact congrArg Except.toOption hcontent.symm

/-- If the built-in engine has reported a fallback, then there is a quote in what it read. -/
theorem quote_mem_of_fallback (hengine : session.engine = .builtIn network) {resolved : Resolved}
    {outcome : Outcome} {judged : World}
    (h : session.Assesses argument options (.initial files stdin disk) settings resolved outcome
      judged) (hfallback : outcome.fallback ≠ none) :
    ∃ content, Resolution.content? network options.repairSample files stdin
        (.ofArgument argument) = some content ∧ Bytes.quote ∈ content := by
  obtain ⟨start, hready, hassess⟩ := h
  rw [on_assess] at hassess
  split at hassess
  · simp at hassess
  · next found middle hresolve =>
      split at hassess
      · simp at hassess
      · next judgement after hvalidation =>
          obtain ⟨rfl, rfl⟩ : found = resolved ∧ judgement = outcome := by
            simpa using (Prod.mk.inj hassess).1
          obtain ⟨report, fs, hvalidate, houtcome, -⟩ := Validation.run_ok hvalidation
          rw [hengine] at hvalidate
          have hengaged := BuiltIn.validate_of_builtIn hvalidate
          obtain ⟨content, strict, written, hcompletes⟩ := BuiltIn.completes_of_ok hengaged
          have hquote : Bytes.quote ∈ content := by
            by_contra hnone
            refine hfallback ((Validation.fallback_of_outcomeOf houtcome).trans ?_)
            exact BuiltIn.fallback_of_unquoted hengaged hcompletes.loads hnone
          have hreaches : Resolution.Reaches network settings (session.directory settings)
              (.ofArgument argument) _ content :=
            ⟨found, middle, hresolve, hcompletes.loads⟩
          have hcontent := (Resolution.reaches_iff.mp hreaches).1
          have hstdin : start.stdin = stdin := congrArg World.stdin (getReady_initial hready)
          refine ⟨content, ?_, hquote⟩
          rw [← Options.repairSample_of_settings (settings_of_getReady hready), ← hcontent, ← hstdin]
          exact (Resolution.content?_congr (read_input_of_getReady hready) ..).symm

/-- Without a quote it makes no difference whether quotes are heeded: both passes count, write and
fail alike, no fallback is reported, and the warning that quotes were ignored is given only if there
is a quote in the document that the engine reads. An input that was decoded has it as a byte then. -/
theorem unquoted_reads_strictly :
    (∀ (options : ReadOptions) (delimiter : UInt8) (content : Bytes), Bytes.quote ∉ content →
      Pass.run options ⟨delimiter, true⟩ content = Pass.run options ⟨delimiter, false⟩ content) ∧
    (∀ (network : Network) (fs after : FileSystem) (source : Source) (options : ReadOptions)
      (output reject : Path) (content : Bytes) (report : EngineReport),
      BuiltIn.Loads network fs source content → Bytes.quote ∉ content →
      (Engine.builtIn network).validate fs source options output reject = (.ok report, after) →
      report.fallback = none) ∧
    (∀ (network : Network) (session : Session), session.engine = .builtIn network →
      ∀ (argument : String) (options : Options) (files : FileSystem) (stdin : Stdin) (disk : Disk),
      Event.warning Policy.fallbackWarning ∈
        (session.run argument options (.initial files stdin disk)).2.events →
      (∃ content, Resolution.content? network options.repairSample files stdin
          (.ofArgument argument) = some content ∧ Bytes.quote ∈ content) ∧
        ∃ bytes, Resolution.rawContent? network files stdin (.ofArgument argument) = some bytes ∧
          Bytes.quote ∈ bytes) := by
  refine ⟨fun options delimiter content hcontent => ?_, ?_, ?_⟩
  · exact Pass.run_of_unquoted hcontent options delimiter true false
  · intro network fs after source options output reject content report hload hcontent h
    exact BuiltIn.fallback_of_unquoted (BuiltIn.validate_of_builtIn h) hload hcontent
  · intro network session hengine argument options files stdin disk hwarning
    have hends := ends_execute session argument options (.initial files stdin disk)
    rw [hends.run_eq, ← mem_warnings_iff, warnings_append, warnings_eventsOf,
      List.append_nil] at hwarning
    rcases hends.of_warning hwarning with hbefore | ⟨-, settings, resolved, outcome, judged,
      hassess, hfallback⟩
    · simp [World.initial, warnings] at hbefore
    · have hsome : outcome.fallback ≠ none := by
        rintro hnone
        simp [hnone] at hfallback
      obtain ⟨content, hcontent, hquote⟩ := quote_mem_of_fallback hengine hassess hsome
      exact ⟨⟨content, hcontent, hquote⟩, Resolution.mem_of_content? (by decide) hcontent hquote⟩

/-- A file system with a document in it that has a quote that is not closed. -/
def unbalancedFiles : FileSystem :=
  (FileSystem.empty []).put ["in.csv"] (.file BuiltIn.unbalancedContent)

/-- A session with the built-in engine. -/
def plainSession : Session := ⟨.builtIn .unreachable, none, ⟨"/"⟩⟩

/-- The run over the document warns, and there is a quote in it. -/
theorem unbalanced_quoted :
    Event.warning Policy.fallbackWarning ∈
        (plainSession.run "in.csv" { output := some ⟨"out.csv"⟩ }
          (.initial unbalancedFiles .terminal .sound)).2.events ∧
      (∃ content, Resolution.content? .unreachable none unbalancedFiles .terminal
          (.ofArgument "in.csv") = some content ∧ Bytes.quote ∈ content) ∧
        ∃ bytes, Resolution.rawContent? .unreachable unbalancedFiles .terminal
          (.ofArgument "in.csv") = some bytes ∧ Bytes.quote ∈ bytes := by
  have hwarning : Event.warning Policy.fallbackWarning ∈
      (plainSession.run "in.csv" { output := some ⟨"out.csv"⟩ }
        (.initial unbalancedFiles .terminal .sound)).2.events := by
    decide +kernel
  have hengine : plainSession.engine = .builtIn .unreachable := rfl
  exact ⟨hwarning, unquoted_reads_strictly.2.2 .unreachable plainSession hengine "in.csv"
    { output := some ⟨"out.csv"⟩ } unbalancedFiles .terminal .sound hwarning⟩

end Session

end TidyCsv
