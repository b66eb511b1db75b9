import Mathlib.Data.Nat.Bitwise
import SourceTidy.Proofs.FixedTree
import SourceTidy.Proofs.ScanCounts

/-!
# The modes of fixed files

A fixer flips the executable bits of a file if one of them is set. This clears them where all three
are set. Where only some are, the file stays executable, and the next scan flips them back.
-/

namespace SourceTidy

open SourceTidy.Path Source

def clearedMode (mode : Nat) : Nat := mode ^^^ (mode &&& executableBits)

/-- All three executable bits are set, or none of them. -/
def Uniform (mode : Nat) : Prop :=
  mode &&& executableBits = 0 ∨ mode &&& executableBits = executableBits

instance (mode : Nat) : Decidable (Uniform mode) := inferInstanceAs (Decidable (_ ∨ _))

/-- The permission bits that a fixer gives to a file. -/
def flippedMode (mode : Nat) : Nat :=
  if isExecutable (writtenMode mode) then writtenMode mode ^^^ executableBits
  else writtenMode mode

lemma testBit_clearedMode (mode i : Nat) :
    (clearedMode mode).testBit i = (mode.testBit i && !executableBits.testBit i) := by
  rw [clearedMode, Nat.testBit_xor, Nat.testBit_and]
  cases mode.testBit i <;> cases executableBits.testBit i <;> rfl

lemma testBit_iff (mode i : Nat) : mode.testBit i = true ↔ mode / 2 ^ i % 2 = 1 := by
  rw [Nat.testBit_eq_decide_div_mod_eq, decide_eq_true_iff]

lemma ownerBit_iff (mode : Nat) : (mode &&& 0o4000 != 0) = true ↔ mode / 2 ^ 11 % 2 = 1 := by
  have hbit : mode &&& 0o4000 = (mode.testBit 11).toNat * 2 ^ 11 := Nat.and_two_pow mode 11
  rw [hbit, ← testBit_iff]
  cases mode.testBit 11 <;> decide

lemma testBit_of_groupBits {mode : Nat} (h : (mode &&& 0o2010 == 0o2010) = true) :
    mode.testBit 10 = true ∧ mode.testBit 3 = true := by
  have hbits : mode &&& 0o2010 = 0o2010 := by simpa using h
  have hbit : ∀ i, Nat.testBit 0o2010 i = true → mode.testBit i = true := by
    intro i hi
    have hand : (mode &&& 0o2010).testBit i = true := by rw [hbits, hi]
    rw [Nat.testBit_and, hi, Bool.and_true] at hand
    exact hand
  exact ⟨hbit 10 (by decide), hbit 3 (by decide)⟩

lemma writtenMode_bits (mode : Nat) :
    writtenMode mode % 2 ^ 10 = mode % 2 ^ 10 ∧ (writtenMode mode).testBit 11 = false := by
  rw [← Bool.not_eq_true, testBit_iff]
  unfold writtenMode
  dsimp only
  have howner : ∃ owned, (if (mode &&& 0o4000 != 0) = true then mode - 0o4000 else mode) = owned ∧
      owned % 2 ^ 10 = mode % 2 ^ 10 ∧ owned / 2 ^ 11 % 2 = 0 := by
    refine ⟨_, rfl, ?_⟩
    simp only [ownerBit_iff]
    split <;> omega
  obtain ⟨owned, howned, hlow, hhigh⟩ := howner
  rw [howned]
  split
  · next hgroup =>
    have hten := (testBit_iff owned 10).mp (testBit_of_groupBits hgroup).1
    omega
  · omega

lemma writtenMode_and (mode : Nat) : writtenMode mode &&& executableBits = mode &&& executableBits := by
  have hlow : ∀ m, m &&& executableBits = m % 2 ^ 10 &&& executableBits := by
    intro m
    have hle : m &&& executableBits ≤ executableBits := Nat.and_le_right
    have hsmall : executableBits < 2 ^ 10 := by decide
    have hmod : (m &&& executableBits) % 2 ^ 10 = m % 2 ^ 10 &&& executableBits % 2 ^ 10 :=
      Nat.and_mod_two_pow
    rwa [Nat.mod_eq_of_lt (by omega), Nat.mod_eq_of_lt hsmall] at hmod
  rw [hlow, (writtenMode_bits mode).1, ← hlow]

lemma writtenMode_eq_self {mode : Nat} (howner : mode.testBit 11 = false)
    (hexec : mode &&& executableBits = 0) : writtenMode mode = mode := by
  have hthree : mode.testBit 3 = false := by
    have hand : (mode &&& executableBits).testBit 3 = false := by rw [hexec, Nat.zero_testBit]
    rw [Nat.testBit_and] at hand
    exact (Bool.and_eq_false_iff.mp hand).resolve_right (by decide)
  have howner' : ¬(mode &&& 0o4000 != 0) = true := by
    rw [ownerBit_iff, ← testBit_iff, howner]
    decide
  have hgroup : ¬(mode &&& 0o2010 == 0o2010) = true := fun hgroup =>
    Bool.false_ne_true (hthree.symm.trans (testBit_of_groupBits hgroup).2)
  rw [writtenMode, if_neg howner']
  exact if_neg hgroup

lemma isExecutable_eq_false_iff (mode : Nat) : isExecutable mode = false ↔ mode &&& executableBits = 0 := by
  simp [isExecutable]

lemma clearedMode_and (mode : Nat) : clearedMode mode &&& executableBits = 0 := by
  rw [clearedMode, Nat.and_xor_distrib_right, Nat.and_assoc, Nat.and_self, Nat.xor_self]

lemma flippedMode_of_eq {mode : Nat} (h : mode &&& executableBits = 0) :
    flippedMode mode = writtenMode mode := by
  have hno : isExecutable (writtenMode mode) = false := by
    rw [isExecutable_eq_false_iff, writtenMode_and, h]
  rw [flippedMode, hno, if_neg Bool.false_ne_true]

lemma flippedMode_of_ne {mode : Nat} (h : mode &&& executableBits ≠ 0) :
    flippedMode mode = writtenMode mode ^^^ executableBits := by
  have hyes : isExecutable (writtenMode mode) = true := by
    rw [← Bool.not_eq_false, isExecutable_eq_false_iff, writtenMode_and]
    exact h
  rw [flippedMode, if_pos hyes]

lemma flippedMode_and_of_ne {mode : Nat} (h : mode &&& executableBits ≠ 0) :
    flippedMode mode &&& executableBits = (mode &&& executableBits) ^^^ executableBits := by
  rw [flippedMode_of_ne h, Nat.and_xor_distrib_right, writtenMode_and, Nat.and_self]

lemma isExecutable_flippedMode (mode : Nat) : isExecutable (flippedMode mode) = false ↔ Uniform mode := by
  rw [isExecutable_eq_false_iff, Uniform]
  by_cases hexec : mode &&& executableBits = 0
  · rw [flippedMode_of_eq hexec, writtenMode_and]
    exact iff_of_true hexec (.inl hexec)
  · rw [flippedMode_and_of_ne hexec, Nat.xor_eq_zero_iff, or_iff_right hexec]

lemma flippedMode_eq_iff (mode : Nat) : flippedMode mode = clearedMode (writtenMode mode) ↔ Uniform mode := by
  constructor
  · intro h
    rw [← isExecutable_flippedMode, h, isExecutable_eq_false_iff, clearedMode_and]
  · rintro (hnone | hall)
    · rw [flippedMode_of_eq hnone, clearedMode, writtenMode_and, hnone, Nat.xor_zero]
    · have hsome : mode &&& executableBits ≠ 0 := by
        rw [hall]
        decide
      rw [flippedMode_of_ne hsome, clearedMode, writtenMode_and, hall]

lemma flippedMode_flippedMode_iff (mode : Nat) :
    flippedMode (flippedMode mode) = flippedMode mode ↔ Uniform mode := by
  constructor
  · intro h
    by_contra hmixed
    have hexec : flippedMode mode &&& executableBits ≠ 0 := by
      rw [← isExecutable_flippedMode, isExecutable_eq_false_iff] at hmixed
      exact hmixed
    have hback := flippedMode_and_of_ne hexec
    rw [h] at hback
    have hbits := congrArg (flippedMode mode &&& executableBits ^^^ ·) hback
    simp only [Nat.xor_self, ← Nat.xor_assoc, Nat.zero_xor] at hbits
    exact absurd hbits (by decide)
  · intro h
    have hcleared := (flippedMode_eq_iff mode).mpr h
    have hnone : flippedMode mode &&& executableBits = 0 := by rw [hcleared, clearedMode_and]
    have howner : (flippedMode mode).testBit 11 = false := by
      rw [hcleared, testBit_clearedMode, (writtenMode_bits mode).2, Bool.false_and]
    rw [flippedMode_of_eq hnone, writtenMode_eq_self howner hnone]

lemma flippedMode_eq_clearedMode_iff (mode : Nat) :
    flippedMode mode = clearedMode mode ↔ Uniform mode ∧ writtenMode mode = mode := by
  have hback : ∀ m, clearedMode m ^^^ (m &&& executableBits) = m := by
    intro m
    rw [clearedMode, Nat.xor_assoc, Nat.xor_self, Nat.xor_zero]
  constructor
  · intro h
    have huniform : Uniform mode := by
      rw [← isExecutable_flippedMode, h, isExecutable_eq_false_iff, clearedMode_and]
    refine ⟨huniform, ?_⟩
    rw [← hback (writtenMode mode), ← (flippedMode_eq_iff mode).mpr huniform, h, writtenMode_and, hback]
  · rintro ⟨huniform, hwritten⟩
    rw [(flippedMode_eq_iff mode).mpr huniform, hwritten]

namespace Checker

variable {c : Checker} {w v : World} {checks : List (String × Check)}

lemma eq_modeFails_of_mem (hchecks : c.checklist = .ok checks) {src : Source} {data : Bytes}
    {test : Session Bool} (h : ("mode (executable bit)", test) ∈ c.tests checks src data) :
    test = modeFails src := by
  rcases List.mem_append.mp h with h | h
  · rcases List.mem_append.mp h with h | h
    · have hname : "mode (executable bit)" ∈ checks.map Prod.fst := by
        obtain ⟨p, hp, heq⟩ := List.mem_map.mp h
        exact List.mem_map.mpr ⟨p, hp, (Prod.mk.inj heq).1⟩
      have hnodup : (c.testNames.take 8 ++ c.testNames.drop 8).Nodup := by
        rw [List.take_append_drop]
        exact c.nodup_testNames
      have hlater : "mode (executable bit)" ∈ c.testNames.drop 8 := List.mem_cons_self
      exact absurd rfl ((List.nodup_append.mp hnodup).2.2 _ ((checklist_names hchecks).subset hname) _
        hlater)
    · split at h
      · exact (Prod.mk.inj (List.mem_singleton.mp h)).2
      · cases h
  · split at h
    · simp at h
    · cases h

section

variable {path : String} {data : Bytes} {mode : Nat} {tally : Tally}
  (hentry : w.tree.entry path = .ok (.file data mode))
  (h : (c.checkFile (.text path)).run w = (.ok tally, v))

include hentry h

lemma failures_of_checkFile : ∃ checks names, c.checklist = .ok checks ∧
    failures c.failFast.isOn w (c.tests checks (.ofPath path) data) = .ok names ∧
    ∀ key, key ∈ tally.keys ↔ key ∈ names := by
  obtain ⟨checks, v₁, hlist, -⟩ := Session.run_bind_eq_ok h
  rw [Session.run_lift] at hlist
  have hchecks : c.checklist = .ok checks := congrArg Prod.fst hlist
  have hread : w.tree.read path = .ok data := by
    unfold FileTree.read
    rw [hentry]
    rfl
  have hout := run_checkFile hchecks hread
  rw [h] at hout
  obtain ⟨names, hnames, rfl⟩ := map_eq_ok hout.symm
  refine ⟨checks, names, hchecks, hnames, fun key => ?_⟩
  rw [Tally.mem_keys_addAll]
  simp [Tally.keys]

omit h in
lemma run_modeFails_ofPath : (modeFails (.ofPath path)).run w = (.ok (isExecutable mode), w) :=
  run_modeFails rfl hentry

lemma isExecutable_of_mem_keys (hkey : "mode (executable bit)" ∈ tally.keys) : isExecutable mode = true := by
  obtain ⟨checks, names, hchecks, hnames, hkeys⟩ := failures_of_checkFile hentry h
  obtain ⟨test, hin, hfail⟩ := exists_of_mem_failures hnames ((hkeys _).mp hkey)
  rw [eq_modeFails_of_mem hchecks hin, run_modeFails_ofPath hentry] at hfail
  exact Except.ok.inj hfail

lemma mem_keys_of_isExecutable (hon : c.mode.isOn = true) (hfirst : c.failFast.isOn = false)
    (hexec : isExecutable mode = true) : "mode (executable bit)" ∈ tally.keys := by
  obtain ⟨checks, names, -, hnames, hkeys⟩ := failures_of_checkFile hentry h
  rw [hfirst] at hnames
  have hin : ("mode (executable bit)", modeFails (.ofPath path)) ∈
      c.tests checks (.ofPath path) data := by simp [tests, hon]
  have hfail : ((modeFails (.ofPath path)).run w).1 = .ok true := by
    rw [run_modeFails_ofPath hentry, hexec]
  exact (hkeys _).mpr (mem_failures hnames hin hfail)

end

end Checker

namespace Fixer

open SourceWalk
open Rewriter (Chosen)

variable {f : Fixer} {fixes : List LineFix} {sel : Selection} {e : Eol} {w w' : World} {path : String}

section

variable (hf : f.Direct fixes sel e) (hp : w.tree.Plain)
  (hrun : (f.scan (.text path)).run w = (.ok (), w'))

include hf hp hrun

lemma fixed_of_scan :
    Fixed f fixes e w.tree (Chosen w.tree sel (sources (stops w.tree sel path))) w'.tree ∧
      ∀ g, ¬Obstacle w.tree sel path g := by
  rcases run_scan hf hp (Fixed.refl w.tree) path with ⟨v, hok, hfixed, -, hno⟩ | ⟨g, v, herror, -⟩
  · cases hrun.symm.trans hok
    exact ⟨by simpa using hfixed, hno⟩
  · cases hrun.symm.trans herror

lemma scan_flips (hmode : f.mode.isOn = true) {loc : Location} {s : Text} {data : Bytes} {mode : Nat}
    (hchosen : Chosen w.tree sel (sources (stops w.tree sel path)) loc s)
    (hfile : w.tree.get? loc = some (.file data mode)) :
    w'.tree.get? loc = some (.file (f.fixedBytes fixes e s) (flippedMode mode)) := by
  rw [run_scan_of_lineFixes hf.lineFixes hf.selection] at hrun
  obtain ⟨-, hnew⟩ := Rewriter.fold_ends hf.gives hf.noBackup (Selection.mode_of_ofPatterns hf.selection)
    hp hrun
  have hflip : f.finalMode (writtenMode mode) = flippedMode mode := by
    rw [finalMode, hmode, Bool.true_and, flippedMode]
  exact hflip ▸ (hnew rfl).new loc s data mode hchosen hfile

end

/-- The permission bits of a selected file before a scan, after it, and after another one. -/
structure ModesOfScans (f : Fixer) (path : String) (w' w'' : World) (loc : Location)
    (mode mode' : Nat) : Prop where
  cleared : mode' = clearedMode mode ↔ Uniform mode ∧ writtenMode mode = mode
  written : mode' = clearedMode (writtenMode mode) ↔ Uniform mode
  passes : Uniform mode → ∀ (c : Checker) file tally v, locate w'.tree .follow file = .ok loc →
    (c.checkFile (.text file)).run w' = (.ok tally, v) → "mode (executable bit)" ∉ tally.keys
  fails : ¬Uniform mode → ∀ (c : Checker) file tally v, locate w'.tree .follow file = .ok loc →
    c.mode.isOn = true → c.failFast.isOn = false →
    (c.checkFile (.text file)).run w' = (.ok tally, v) → "mode (executable bit)" ∈ tally.keys
  kept : Uniform mode → ∃ data, w''.tree.get? loc = some (.file data mode')
  flippedBack : ¬Uniform mode → ∀ s, Selects f.patterns path w' loc s →
    ∃ data mode'', w''.tree.get? loc = some (.file data mode'') ∧ mode'' ≠ mode'

/-- A scan of a plain tree by a fixer that changes permission bits. The executable bits of a selected
file are cleared just if they were all set, or none. Then the check of the file passes and another
scan leaves them. Else the file is still executable, and another scan flips the bits back. Of the
other bits those go that are lost when a file is written. -/
theorem scan_clears_uniform_modes (hmode : f.mode.isOn = true) (hformat : f.formatter.isOn = false)
    (hbackup : f.backup.isOn = false) (heol : f.eol = .eol e) (hp : w.tree.Plain)
    (hrun : (f.scan (.text path)).run w = (.ok (), w')) :
    ∃ w'', (f.scan (.text path)).run w' = (.ok (), w'') ∧
      (∀ loc, (∀ s, ¬Selects f.patterns path w loc s) →
        w'.tree.get? loc = w.tree.get? loc ∧ w''.tree.get? loc = w.tree.get? loc) ∧
      ∀ loc s data mode, Selects f.patterns path w loc s → w.tree.get? loc = some (.file data mode) →
        ∃ data' mode', w'.tree.get? loc = some (.file data' mode') ∧
          f.ModesOfScans path w' w'' loc mode mode' := by
  obtain ⟨fixes, sel, hf⟩ := direct_of_scan hformat hbackup heol hrun
  obtain ⟨hfixed, hno⟩ := fixed_of_scan hf hp hrun
  obtain ⟨w'', hrun'⟩ : ∃ w'', (f.scan (.text path)).run w' = (.ok (), w'') := by
    rcases run_scan hf hp hfixed path with ⟨w'', hok, -⟩ | ⟨g, v, -, hg, -⟩
    · exact ⟨w'', hok⟩
    · exact absurd hg (hno g)
  have hp' : w'.tree.Plain := hfixed.shape.plain hp
  obtain ⟨hfixed', hno'⟩ := fixed_of_scan hf hp' hrun'
  refine ⟨w'', hrun', ?_, ?_⟩
  · intro loc hnone
    have hnone' : ∀ s, ¬Chosen w.tree sel (sources (stops w.tree sel path)) loc s :=
      fun s hs => hnone s ((selects_iff hf.selection hno).mpr hs)
    have hsame := hfixed.others loc hnone'
    refine ⟨hsame, (hfixed'.others loc fun s hs => hnone' s ?_).trans hsame⟩
    rw [stops_congr rfl rfl (sameView hp hfixed.shape) path] at hs
    exact (hfixed.chosen_of_same hp hsame).mp hs
  · intro loc s data mode hselects hfile
    have hfile' := scan_flips hf hp hrun hmode ((selects_iff hf.selection hno).mp hselects) hfile
    have hentry : ∀ file, Path.locate w'.tree .follow file = .ok loc →
        w'.tree.entry file = .ok (.file (f.fixedBytes fixes e s) (flippedMode mode)) :=
      fun file hloc => FileTree.entry_of_locate hloc hfile'
    refine ⟨_, flippedMode mode, hfile', flippedMode_eq_clearedMode_iff mode,
      flippedMode_eq_iff mode, ?_, ?_, ?_, ?_⟩
    · intro huniform c file tally v hloc hcheck hkey
      have hexec := Checker.isExecutable_of_mem_keys (hentry file hloc) hcheck hkey
      rw [(isExecutable_flippedMode mode).mpr huniform] at hexec
      cases hexec
    · intro hmixed c file tally v hloc hon hfirst hcheck
      rw [← isExecutable_flippedMode, Bool.not_eq_false] at hmixed
      exact Checker.mem_keys_of_isExecutable (hentry file hloc) hcheck hon hfirst hmixed
    · intro huniform
      by_cases hchosen : ∃ s', Chosen w'.tree sel (sources (stops w'.tree sel path)) loc s'
      · obtain ⟨s', hs'⟩ := hchosen
        have hfile'' := scan_flips hf hp' hrun' hmode hs' hfile'
        rw [(flippedMode_flippedMode_iff mode).mpr huniform] at hfile''
        exact ⟨_, hfile''⟩
      · exact ⟨_, (hfixed'.others loc fun s' hs' => hchosen ⟨s', hs'⟩).trans hfile'⟩
    · intro hmixed s' hselects'
      have hfile'' := scan_flips hf hp' hrun' hmode ((selects_iff hf.selection hno').mp hselects') hfile'
      exact ⟨_, _, hfile'', mt (flippedMode_flippedMode_iff mode).mp hmixed⟩

/-- A file that everybody may run is not executable after a scan, and stays so. -/
theorem scan_clears_mode_of_file :
    let w : World := { tree := { entries := [(["a.c"], .file [0x78, 0x0a] 0o755)] }, year := 2024 }
    let f : Fixer := { patterns := ⟨.texts ["*.c"], .texts [], .texts []⟩ }
    ∃ w' w'' data data', (f.scan (.text "a.c")).run w = (.ok (), w') ∧
      (f.scan (.text "a.c")).run w' = (.ok (), w'') ∧
      w'.tree.get? ["a.c"] = some (.file data 0o644) ∧
      w''.tree.get? ["a.c"] = some (.file data' 0o644) := by
  intro w f
  have hp : w.tree.Plain := by decide
  have hloc : Path.locate w.tree .follow "a.c" = .ok ["a.c"] := Path.locate_name hp rfl
  obtain ⟨sel, hsel⟩ : ∃ sel, Selection.ofPatterns .text f.patterns = .ok sel := ⟨_, rfl⟩
  have hf : f.Direct [.trim, .tabs 4] sel .native := ⟨rfl, hsel, rfl, rfl, rfl⟩
  have hselects : Selects f.patterns "a.c" w ["a.c"] ['x', '\n'] :=
    selects_file rfl ⟨hloc, rfl, rfl, rfl, rfl⟩
  rcases run_scan hf hp (Fixed.refl w.tree) "a.c" with ⟨w', hrun, -⟩ | ⟨g, w', -, hg, -⟩
  · obtain ⟨w'', hrun', -, hmodes⟩ := scan_clears_uniform_modes (e := .native) rfl rfl rfl rfl hp hrun
    obtain ⟨data, mode', hfile, hscans⟩ := hmodes ["a.c"] _ _ _ hselects rfl
    have huniform : Uniform 0o755 := by decide
    obtain rfl : mode' = 0o644 := hscans.cleared.mpr ⟨huniform, by decide⟩
    obtain ⟨data', hfile'⟩ := hscans.kept huniform
    exact ⟨w', w'', data, data', hrun, hrun', hfile, hfile'⟩
  · exact absurd hg (not_obstacle_of_file hp hloc rfl g)

lemma scan_flips_file (hf : f.Direct fixes sel e) (hmode : f.mode.isOn = true) (hp : w.tree.Plain)
    {loc : Location} {data : Bytes} {mode : Nat} {s : Text} (h : Picks w.tree sel .text path loc data mode s) :
    ∃ w', (f.scan (.text path)).run w = (.ok (), w') ∧ w.tree.SameShape w'.tree ∧
      w'.tree.get? loc = some (.file (f.fixedBytes fixes e s) (flippedMode mode)) := by
  rcases run_scan hf hp (Fixed.refl w.tree) path with ⟨w', hrun, -⟩ | ⟨g, w', -, hg, -⟩
  · obtain ⟨hfixed, hno⟩ := fixed_of_scan hf hp hrun
    have hchosen : Chosen w.tree sel (sources (stops w.tree sel path)) loc s :=
      (selects_iff hf.selection hno).mp (selects_file hf.selection h)
    exact ⟨w', hrun, hfixed.shape, scan_flips hf hp hrun hmode hchosen h.file⟩
  · exact absurd hg (not_obstacle_of_file hp h.located h.file g)

/-- A file that only its owner may run can be run by all others after a scan, and by its owner again
after the next one. -/
theorem scan_lends_executable_bits :
    let w : World := { tree := { entries := [(["a.c"], .file [0x78, 0x0a] 0o744)] }, year := 2024 }
    let f : Fixer := { patterns := ⟨.texts ["*.c"], .texts [], .texts []⟩ }
    ∃ w' w'' data data', (f.scan (.text "a.c")).run w = (.ok (), w') ∧
      (f.scan (.text "a.c")).run w' = (.ok (), w'') ∧
      Selects f.patterns "a.c" w ["a.c"] ['x', '\n'] ∧ clearedMode 0o744 = 0o644 ∧
      w'.tree.get? ["a.c"] = some (.file data 0o655) ∧
      w''.tree.get? ["a.c"] = some (.file data' 0o744) := by
  intro w f
  have hp : w.tree.Plain := by decide
  have hloc : Path.locate w.tree .follow "a.c" = .ok ["a.c"] := Path.locate_name hp rfl
  obtain ⟨sel, hsel⟩ : ∃ sel, Selection.ofPatterns .text f.patterns = .ok sel := ⟨_, rfl⟩
  have hf : f.Direct [.trim, .tabs 4] sel .native := ⟨rfl, hsel, rfl, rfl, rfl⟩
  have hpicks : Picks w.tree sel .text "a.c" ["a.c"] [0x78, 0x0a] 0o744 ['x', '\n'] := by
    cases hsel
    exact ⟨hloc, rfl, rfl, rfl, rfl⟩
  have hbytes : f.fixedBytes [.trim, .tabs 4] .native ['x', '\n'] = [0x78, 0x0a] := by decide +kernel
  obtain ⟨w', hrun, hshape, hfile⟩ := scan_flips_file hf rfl hp hpicks
  rw [hbytes] at hfile
  have hloc' : Path.locate w'.tree .follow "a.c" = .ok ["a.c"] := by
    rw [Path.locate_sameShape hp hshape, hloc]
  obtain ⟨w'', hrun', -, hfile'⟩ := scan_flips_file hf rfl (hshape.plain hp)
    { hpicks with located := hloc', file := hfile }
  exact ⟨w', w'', _, _, hrun, hrun', selects_file hsel hpicks, by decide, hfile, hfile'⟩

end Fixer

end SourceTidy
