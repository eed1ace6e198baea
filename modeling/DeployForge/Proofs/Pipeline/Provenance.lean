import DeployForge.Proofs.Pipeline.Stages
import DeployForge.Proofs.Probe

namespace DeployForge.Pipeline

variable {σ : Type} {bench : Bench σ} {target : BuildTarget} {path : Path} {site final : Site σ}

/-- A tool changes files, but not the directory that a run starts its paths from. -/
def StaysInPlace (bench : Bench σ) : Prop :=
  ∀ command args mode site, (bench.tools.run command args mode site).2.disk.place = site.disk.place

/-- The three calls behind an artifact, with the code taken from the listing that the first one
left, and the payload that the last one gave. -/
structure Provenance (bench : Bench σ) (target : BuildTarget) (log : Log) where
  first : ToolCall
  second : ToolCall
  third : SandboxCall
  listing : String
  code : Listing.Extracted
  payload : String
  calls_eq : log.calls = [.tool first, .tool second, .sandbox third]
  first_builds : Builds bench first
  first_succeeds : first.Succeeds
  path_bound : first.before.readText bench.paths.probeSource =
    .ok (ProbeModule.pathSource target.path)
  no_listing : first.before.isPresent bench.paths.listing = false
  listed : first.after.readText bench.paths.listing = .ok listing
  extracted : Listing.extract listing ("deploy" ++ target.name) = .ok code
  second_builds : Builds bench second
  second_succeeds : second.Succeeds
  code_bound : second.before.readText bench.paths.probeSource =
    .ok (ProbeModule.codeSource code.text bench.project.probe.accessor)
  no_program : second.before.isPresent bench.paths.compiled = false
  loaded : Program.load bench.paths.compiled second.after = .ok third.program
  getter_eq : third.getter = bench.project.probe.accessor
  value_eq : third.value = bench.project.probe.deployValue
  answered : third.result = .ok payload

lemma Builds.place_eq {call : ToolCall} (h : Builds bench call) (hstays : StaysInPlace bench) :
    call.after.place = call.before.place := by
  obtain ⟨outside, outside', hrun⟩ := h.given
  have hplace := hstays call.command call.args call.mode ⟨call.before, outside⟩
  rw [hrun] at hplace
  exact hplace

lemma readText_of_removeStale {d d' d'' : Disk} {p : ProbeModule} {source : String} {output : Path}
    (hw : p.write source d = (.ok (), d')) (hr : removeStale output d' = (.ok (), d''))
    (hne : d.location p.path ≠ d.location output) :
    d''.readText p.path = .ok source ∧ d''.place = d.place := by
  have hwrite := ProbeModule.write_eq_ok hw
  have hplace : d'.place = d.place := (Disk.changesAt_of_write hwrite).place
  have hchange := changesAt_of_removeStale hr
  refine ⟨hchange.readText ?_ (Disk.readText_of_writeText hwrite), hchange.place.trans hplace⟩
  rwa [Disk.location, Disk.location, hplace]

theorem run_provenance (hstays : StaysInPlace bench)
    (hlisting : site.disk.location bench.paths.probeSource ≠
      site.disk.location bench.paths.listing)
    (hcompiled : site.disk.location bench.paths.probeSource ≠
      site.disk.location bench.paths.compiled)
    (h : run bench target site = (.ok path, final)) :
    ∃ (log : Log) (made : Provenance bench target log) (bytes : List UInt8),
      run bench.logged target (site.logging []) = (.ok path, final.logging log) ∧
        path = bench.paths.outputDir.join ⟨target.name ++ ".boc"⟩ ∧
        final.disk.read path = .ok bytes.toByteArray ∧
        Text.Hex.encode bytes = (Text.trim made.payload.toList).map Char.toLower := by
  obtain ⟨log, hlog⟩ := logsTo_run bench target site []
  rw [h] at hlog
  have hrun := hlog
  rw [run] at hrun
  obtain ⟨_, s₁, h₁, hrun⟩ := Work.bind_eq_ok.mp hrun
  obtain ⟨_, s₂, h₂, hrun⟩ := Work.bind_eq_ok.mp hrun
  obtain ⟨code, s₃, h₃, hrun⟩ := Work.bind_eq_ok.mp hrun
  obtain ⟨_, s₄, h₄, hrun⟩ := Work.bind_eq_ok.mp hrun
  obtain ⟨_, s₅, h₅, hrun⟩ := Work.bind_eq_ok.mp hrun
  obtain ⟨payload, s₆, h₆, h₇⟩ := Work.bind_eq_ok.mp hrun
  obtain ⟨hbind, hc₁⟩ := onDisk_stage_ok h₁
  obtain ⟨first, hremove, hbuilds, hsucceeds, hd₂, hc₂⟩ := compile_stage_ok h₂
  obtain ⟨hextract, hd₃, hc₃⟩ := readDisk_stage_ok h₃
  obtain ⟨hcode, hc₄⟩ := onDisk_stage_ok h₄
  obtain ⟨second, hremove', hbuilds', hsucceeds', hd₅, hc₅⟩ := compile_stage_ok h₅
  obtain ⟨third, hload, hbefore, hgetter, hvalue, hanswer, hd₆, hc₆⟩ := deploy_stage_ok h₆
  obtain ⟨hpersist, hc₇⟩ := onDisk_stage_ok h₇
  obtain ⟨listing, hlisted, hextracted⟩ := extract_eq_ok.mp hextract
  obtain ⟨hpath, bytes, hstored, hencoded⟩ := persist_eq_ok hpersist
  obtain ⟨hsource, hplace⟩ := readText_of_removeStale hbind hremove hlisting
  have hplace₃ : s₃.disk.place = site.disk.place := by
    rw [hd₃, hd₂, hbuilds.place_eq hstays, hplace]
    rfl
  obtain ⟨hsource', -⟩ := readText_of_removeStale hcode hremove' (by
    rwa [Disk.location, Disk.location, hplace₃])
  have hcalls : log.calls = [.tool first, .tool second, .sandbox third] := by
    change (final.logging log).calls = _
    rw [hc₇, hc₆, hc₅, hc₄, hc₃, hc₂, hc₁]
    rfl
  have hplaced : path = bench.paths.outputDir.join ⟨target.name ++ ".boc"⟩ := by
    rw [hpath, ArtifactStore.path, String.append_assoc]
    rfl
  exact ⟨log,
    { first, second, third, listing, code, payload
      calls_eq := hcalls
      first_builds := hbuilds
      first_succeeds := hsucceeds
      path_bound := hsource
      no_listing := isPresent_of_removeStale hremove
      listed := by rw [← hd₂]; exact hlisted
      extracted := hextracted
      second_builds := hbuilds'
      second_succeeds := hsucceeds'
      code_bound := hsource'
      no_program := isPresent_of_removeStale hremove'
      loaded := by rw [← hd₅]; exact hload
      getter_eq := hgetter
      value_eq := hvalue
      answered := hanswer },
    bytes, hlog, hplaced, hstored, hencoded⟩

def steady : Bench Unit where
  project :=
    { paths := {}, tools := {}, probe := {}, contracts := []
      registry := .empty
      profiles :=
        { mainnet := [], testnet := [], test := []
          aggregator := "", overrideToken := "", overrideValue := "" } }
  environment := []
  paths :=
    { probeSource := ⟨"probe.tolk"⟩, listing := ⟨"probe.fif"⟩, compiled := ⟨"probe.json"⟩
      outputDir := ⟨"out"⟩ }
  tools :=
    { run := fun _ _ _ site =>
        let listing := "PROGRAM\x7b\ndeployOffer() PROC:<\x7b\n  NOP\n\x7d>\n\x7dEND>c\n"
        let program := "\x7b\"hex\": \"b5ee\"\x7d"
        let tree := (site.disk.tree.insert ["probe.fif"] (.file listing.toUTF8 false)).insert
          ["probe.json"] (.file program.toUTF8 false)
        (.ok {}, { site with disk := { site.disk with tree } })
      sandbox := fun _ _ _ site => (.ok " B5ee\n", site)
      notify := fun _ _ _ => () }

def offer : BuildTarget := ⟨"Offer", "contracts/offer"⟩

theorem run_provenance_steady :
    StaysInPlace steady ∧
    Disk.location {} steady.paths.probeSource ≠ Disk.location {} steady.paths.listing ∧
    Disk.location {} steady.paths.probeSource ≠ Disk.location {} steady.paths.compiled ∧
    run steady offer ⟨{}, ()⟩ = (.ok ⟨"out/Offer.boc"⟩, (run steady offer ⟨{}, ()⟩).2) ∧
    ∃ (log : Log) (made : Provenance steady offer log) (bytes : List UInt8),
      run steady.logged offer (Site.logging ⟨{}, ()⟩ []) =
          (.ok ⟨"out/Offer.boc"⟩, (run steady offer ⟨{}, ()⟩).2.logging log) ∧
        ⟨"out/Offer.boc"⟩ = steady.paths.outputDir.join ⟨offer.name ++ ".boc"⟩ ∧
        (run steady offer ⟨{}, ()⟩).2.disk.read ⟨"out/Offer.boc"⟩ = .ok bytes.toByteArray ∧
        Text.Hex.encode bytes = (Text.trim made.payload.toList).map Char.toLower := by
  have hstays : StaysInPlace steady := fun _ _ _ _ => rfl
  have hlisting : Disk.location {} steady.paths.probeSource ≠
      Disk.location {} steady.paths.listing := by
    decide +kernel
  have hcompiled : Disk.location {} steady.paths.probeSource ≠
      Disk.location {} steady.paths.compiled := by
    decide +kernel
  have hresult : (run steady offer ⟨{}, ()⟩).1 = .ok ⟨"out/Offer.boc"⟩ :=
    toOption_eq_some.mp (by decide +kernel)
  have hrun : run steady offer ⟨{}, ()⟩ =
      (.ok ⟨"out/Offer.boc"⟩, (run steady offer ⟨{}, ()⟩).2) :=
    Prod.ext hresult rfl
  exact ⟨hstays, hlisting, hcompiled, hrun, run_provenance hstays hlisting hcompiled hrun⟩

end DeployForge.Pipeline
