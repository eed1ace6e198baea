import DeployForge.Artifact
import DeployForge.Proofs.Text.Hex
import DeployForge.Proofs.Text.Lines
import DeployForge.Sandbox

namespace DeployForge

variable {s line log before mid behind : List Char} {bytes : List UInt8} {target : String}
  {command : ToolCommand} {output : ToolOutput}

namespace Sandbox

/-- The last line that is not blank, without the blanks around it. -/
def IsLastLine (s line : List Char) : Prop :=
  ∃ early raw late, Text.lines s = early ++ raw :: late ∧ ¬ Text.IsBlank raw ∧
    Text.trim raw = line ∧ ∀ next ∈ late, Text.IsBlank next

lemma lastLine?_eq_some_iff : lastLine? s = some line ↔ IsLastLine s line := by
  rw [lastLine?, List.find?_eq_some_iff_append]
  constructor
  · rintro ⟨hline, late, early, hlines, hlate⟩
    rw [List.reverse_eq_iff, List.reverse_append, List.reverse_cons, List.append_assoc,
      List.singleton_append] at hlines
    obtain ⟨early', rest, hsplit, _, hrest⟩ := List.map_eq_append_iff.mp hlines
    obtain ⟨raw, late', rfl, htrim, hlate'⟩ := List.map_eq_cons_iff.mp hrest
    refine ⟨early', raw, late', hsplit, ?_, htrim, fun next hnext => ?_⟩
    · rw [← Text.trim_eq_nil_iff, htrim]
      simpa using hline
    · have hmem : Text.trim next ∈ late := by
        rw [← List.mem_reverse, ← hlate']
        exact List.mem_map_of_mem hnext
      exact Text.trim_eq_nil_iff.mp (by simpa using hlate _ hmem)
  · rintro ⟨early, raw, late, hlines, hraw, rfl, hlate⟩
    refine ⟨?_, (late.map Text.trim).reverse, (early.map Text.trim).reverse, ?_, ?_⟩
    · rw [← Text.trim_eq_nil_iff] at hraw
      simpa using hraw
    · rw [hlines]
      simp
    · intro next hnext
      obtain ⟨l, hl, rfl⟩ := List.mem_map.mp (List.mem_reverse.mp hnext)
      rw [Text.trim_eq_nil_iff.mpr (hlate l hl)]
      rfl

lemma IsLastLine.trim_eq (h : IsLastLine s line) : Text.trim line = line := by
  obtain ⟨_, raw, _, _, _, rfl, _⟩ := h
  exact Text.trim_trim raw

lemma IsLastLine.ne_nil (h : IsLastLine s line) : line ≠ [] := by
  obtain ⟨_, raw, _, _, hraw, rfl, _⟩ := h
  rwa [Ne, Text.trim_eq_nil_iff]

lemma IsLastLine.behind_log (h : IsLastLine s line) (hlog : Text.EndsLine log) :
    IsLastLine (log ++ s) line := by
  obtain ⟨early, raw, late, hlines, hrest⟩ := h
  refine ⟨Text.lines log ++ early, raw, late, ?_, hrest⟩
  rw [Text.lines_append_of_endsLine hlog, hlines, List.append_assoc]

lemma isLastLine_of_lines {raw : Text.Line} {late : List Text.Line}
    (hlines : Text.lines s = raw :: late) (hline : Text.trim raw = line) (hne : line ≠ [])
    (hlate : ∀ next ∈ late, Text.IsBlank next) : IsLastLine s line := by
  refine ⟨[], raw, late, hlines, ?_, hline, hlate⟩
  rwa [← Text.trim_eq_nil_iff, hline]

lemma isLastLine_between (hbefore : Text.IsBlank before) (hbehind : Text.IsBlank behind)
    (hfeed : '\n' ∉ mid) (hmid : Text.trim mid = mid) (hne : mid ≠ []) :
    IsLastLine (before ++ (mid ++ behind)) mid := by
  -- The lines before the text are blank, and are split off one after the other.
  induction hlength : before.length using Nat.strong_induction_on generalizing before with
  | _ n ih =>
    subst hlength
    by_cases hn : '\n' ∈ before
    · obtain ⟨first, more, rfl, _⟩ := List.eq_append_cons_of_mem hn
      have hmore : Text.IsBlank more := fun c hc => hbefore c (by simp [hc])
      rw [List.append_cons, List.append_assoc]
      exact (ih more.length (by simp; omega) hmore rfl).behind_log (.inr ⟨first, rfl⟩)
    · by_cases hfeed' : '\n' ∈ behind
      · obtain ⟨right, late, rfl, hright⟩ := List.eq_append_cons_of_mem hfeed'
        obtain ⟨hblank, hlate⟩ := Text.isBlank_append_iff.mp hbehind
        have hline : '\n' ∉ before ++ (mid ++ right) := by simp [hn, hfeed, hright]
        have hsplit : before ++ (mid ++ (right ++ '\n' :: late)) =
            before ++ (mid ++ right) ++ '\n' :: late := by simp
        rw [hsplit]
        refine isLastLine_of_lines (Text.lines_append_feed hline late) ?_ hne ?_
        · rw [Text.trim_withoutReturn, Text.trim_append_blanks mid hbefore hblank, hmid]
        · intro next hnext
          exact Text.isBlank_of_mem_lines (fun c hc => hlate c (List.mem_cons_of_mem _ hc)) hnext
      · have hwhole : '\n' ∉ before ++ (mid ++ behind) := by simp [hn, hfeed, hfeed']
        refine isLastLine_of_lines (Text.lines_of_notMem hwhole (by simp [hne])) ?_ hne
          (List.forall_mem_nil _)
        rw [Text.trim_append_blanks mid hbefore hbehind, hmid]

end Sandbox

namespace Artifact

variable {σ : Type}

def ofOutput (command : ToolCommand) (target : String) (output : ToolOutput) :
    Except Error Artifact := do
  let payload ← Sandbox.result command output
  ofHex target payload

def ofCommand (run : ToolRunner σ) (command : ToolCommand) (program : Program) (getter : String)
    (value : Nat) (target : String) : Work σ Artifact := do
  let payload ← Sandbox.ofCommand run command program getter value
  (ofHex target payload : Except Error Artifact)

lemma ofCommand_eq {run : ToolRunner σ} {program : Program} {getter : String} {value : Nat}
    {site after : Site σ}
    (hrun : run command (Sandbox.arguments program getter value) .capture site =
      (.ok output, after)) :
    ofCommand run command program getter value target site =
      (ofOutput command target output, after) := by
  have hcall : Sandbox.ofCommand run command program getter value site =
      (Sandbox.result command output, after) := by
    rw [Sandbox.ofCommand, Work.bind_of_ok hrun, Work.lift_apply]
  rw [ofCommand, ofOutput]
  cases hresult : Sandbox.result command output with
  | error e =>
    rw [hresult] at hcall
    rw [Work.bind_of_error hcall]
    rfl
  | ok payload =>
    rw [hresult] at hcall
    rw [Work.bind_of_ok hcall, Work.lift_apply]
    rfl

lemma ofHex_of_trim (htrim : Text.trim line = line) (hne : line ≠ []) :
    ofHex target (.ofList line) = match Text.Hex.decode line with
      | .error e => .error (.payload (e.message ++ " for " ++ target))
      | .ok bytes => .ok ⟨target, bytes⟩ := by
  have hsome : line.isEmpty = false := by simpa using hne
  simp only [ofHex, String.toList_ofList, htrim, hsome]
  rfl

lemma ofOutput_eq (hstatus : output.status = 0) :
    ofOutput command target output = match Sandbox.lastLine? output.stdout.toList with
      | some line => ofHex target (.ofList line)
      | none => .error (.payload (command.display ++ " printed no result")) := by
  have hcheck : output.check command = .ok output := by
    simp [ToolOutput.check, ToolOutput.isSuccess, hstatus]
  simp only [ofOutput, Sandbox.result, hcheck, bind, Except.bind]
  cases Sandbox.lastLine? output.stdout.toList <;> rfl

lemma ofOutput_eq_ok_iff {artifact : Artifact} (hstatus : output.status = 0) :
    ofOutput command target output = .ok artifact ↔
      artifact.target = target ∧ ∃ line, Sandbox.IsLastLine output.stdout.toList line ∧
        line.map Char.toLower = Text.Hex.encode artifact.bytes := by
  obtain ⟨name, bytes⟩ := artifact
  simp only [ofOutput_eq hstatus, ← Sandbox.lastLine?_eq_some_iff]
  cases hlast : Sandbox.lastLine? output.stdout.toList with
  | none => simp
  | some line =>
    have hline := Sandbox.lastLine?_eq_some_iff.mp hlast
    simp only [Option.some_inj, exists_eq_left', ofHex_of_trim hline.trim_eq hline.ne_nil,
      ← Text.Hex.decode_eq_ok_iff]
    cases Text.Hex.decode line with
    | error e => simp
    | ok found => simp [@eq_comm _ target]

def IsReadable (s : List Char) : Prop :=
  ∃ line, Sandbox.IsLastLine s line ∧ line.length % 2 = 0 ∧ ∀ c ∈ line, c ∈ Text.Hex.alphabet

lemma ofOutput_of_not_readable (hstatus : output.status = 0)
    (h : ¬ IsReadable output.stdout.toList) :
    ∃ message, ofOutput command target output = .error (.payload message) := by
  rw [ofOutput_eq hstatus]
  cases hlast : Sandbox.lastLine? output.stdout.toList with
  | none => exact ⟨_, rfl⟩
  | some line =>
    have hline := Sandbox.lastLine?_eq_some_iff.mp hlast
    simp only [ofHex_of_trim hline.trim_eq hline.ne_nil]
    cases hdecode : Text.Hex.decode line with
    | error e => exact ⟨_, rfl⟩
    | ok bytes => exact absurd ⟨line, hline, Text.Hex.exists_decode_iff.mp ⟨bytes, hdecode⟩⟩ h

lemma isLastLine_printed {payload : List Char} (hlog : Text.EndsLine log)
    (hbefore : Text.IsBlank before) (hbehind : Text.IsBlank behind)
    (hpayload : payload.map Char.toLower = Text.Hex.encode bytes) (hne : bytes ≠ []) :
    Sandbox.IsLastLine (log ++ (before ++ (payload ++ behind))) payload := by
  have hdigits := (Text.Hex.exists_decode_iff.mp ⟨bytes, Text.Hex.decode_eq_ok_iff.mpr hpayload⟩).2
  have hdigit : ∀ c ∈ Text.Hex.alphabet, (!Text.isBlank c) = true :=
    List.all_eq_true.mp (by decide)
  have hblank : ∀ c ∈ payload, Text.isBlank c = false :=
    fun c hc => by simpa using hdigit c (hdigits c hc)
  have htrim := Text.trim_of_notBlank hblank
  refine (Sandbox.isLastLine_between hbefore hbehind ?_ htrim ?_).behind_log hlog
  · intro hfeed
    exact absurd (hblank _ hfeed) (by decide)
  · rintro rfl
    cases bytes with
    | nil => exact hne rfl
    | cons b rest => cases hpayload

/-- The artifact holds the bytes that the command printed: it is made of the last line that is not
blank, and of that only if the line is made of digits in pairs. -/
theorem printed_read_back (run : ToolRunner σ) (command : ToolCommand) (program : Program)
    (getter : String) (value : Nat) (target : String) (site after : Site σ) (output : ToolOutput)
    (hrun : run command (Sandbox.arguments program getter value) .capture site =
      (.ok output, after)) (hstatus : output.status = 0) :
    (∀ log before payload behind bytes,
      output.stdout.toList = log ++ (before ++ (payload ++ behind)) → Text.EndsLine log →
      Text.IsBlank before → Text.IsBlank behind →
      payload.map Char.toLower = Text.Hex.encode bytes → bytes ≠ [] →
      ofCommand run command program getter value target site = (.ok ⟨target, bytes⟩, after)) ∧
    (∀ artifact, ofCommand run command program getter value target site = (.ok artifact, after) ↔
      artifact.target = target ∧ artifact.bytes ≠ [] ∧
        ∃ line, Sandbox.IsLastLine output.stdout.toList line ∧
          line.map Char.toLower = Text.Hex.encode artifact.bytes) ∧
    (¬ IsReadable output.stdout.toList → ∃ message,
      ofCommand run command program getter value target site =
        (.error (.payload message), after)) := by
  rw [ofCommand_eq hrun]
  refine ⟨?_, ?_, ?_⟩
  · intro log before payload behind bytes hstdout hlog hbefore hbehind hpayload hne
    have hline := isLastLine_printed hlog hbefore hbehind hpayload hne
    rw [← hstdout] at hline
    have hok : ofOutput command target output = .ok ⟨target, bytes⟩ :=
      (ofOutput_eq_ok_iff hstatus).mpr ⟨rfl, payload, hline, hpayload⟩
    rw [hok]
  · intro artifact
    rw [Prod.mk.injEq, and_iff_left rfl, ofOutput_eq_ok_iff hstatus]
    refine and_congr_right fun _ => ⟨?_, And.right⟩
    rintro ⟨line, hline, hbytes⟩
    refine ⟨?_, line, hline, hbytes⟩
    intro hnil
    rw [hnil] at hbytes
    exact hline.ne_nil (List.map_eq_nil_iff.mp hbytes)
  · intro hread
    obtain ⟨message, herror⟩ := ofOutput_of_not_readable hstatus hread
    rw [herror]
    exact ⟨message, rfl⟩

def printing (stdout : String) : ToolRunner Unit := fun _ _ _ site => (.ok { stdout }, site)

def emulator : ToolCommand := ⟨"emulate", []⟩

def pristine : Site Unit := ⟨{}, ()⟩

def readPrinted (stdout : String) : Except Error Artifact × Site Unit :=
  ofCommand (printing stdout) emulator ⟨"b5", ⟨"p.json"⟩⟩ "get" 1 "Offer" pristine

def chatter : String := "Deploying\r\nB5\n\u00a0\n\t b5EE9C \r\n\u2003\r"

theorem printed_read_back_chatter :
    Text.EndsLine "Deploying\r\nB5\n".toList ∧ Text.IsBlank "\u00a0\n\t ".toList ∧
      Text.IsBlank " \r\n\u2003\r".toList ∧
      readPrinted chatter = (.ok ⟨"Offer", [0xb5, 0xee, 0x9c]⟩, pristine) ∧
      ¬ IsReadable "b5ee\nb5e\n".toList ∧
      ∃ message, readPrinted "b5ee\nb5e\n" = (.error (.payload message), pristine) := by
  have hlog : Text.EndsLine "Deploying\r\nB5\n".toList := .inr ⟨"Deploying\r\nB5".toList, by decide⟩
  have hbefore : Text.IsBlank "\u00a0\n\t ".toList := by decide
  have hbehind : Text.IsBlank " \r\n\u2003\r".toList := by decide
  have hread : ¬ IsReadable "b5ee\nb5e\n".toList := by
    rintro ⟨line, hline, heven, _⟩
    have hlast : Sandbox.lastLine? "b5ee\nb5e\n".toList = some "b5e".toList := by decide
    rw [← Sandbox.lastLine?_eq_some_iff, hlast, Option.some_inj] at hline
    subst hline
    exact absurd heven (by decide)
  refine ⟨hlog, hbefore, hbehind, ?_, hread, ?_⟩
  · exact (printed_read_back (printing chatter) emulator _ _ _ "Offer" pristine pristine
      { stdout := chatter } rfl rfl).1 _ _ "b5EE9C".toList _ _ (by decide) hlog hbefore hbehind
      (by decide) (by decide)
  · exact (printed_read_back (printing _) emulator _ _ _ "Offer" pristine pristine
      { stdout := "b5ee\nb5e\n" } rfl rfl).2.2 hread

end Artifact

end DeployForge
