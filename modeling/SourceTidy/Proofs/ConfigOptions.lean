import SourceTidy.Config
import SourceTidy.Proofs.CommandLines

/-!
# The options that a configuration gives to a command

A command reads its options from its own section of a configuration, each in its own way, and takes
the level of the log along with them. Without the section it reads nothing, not even the level.
-/

namespace SourceTidy.Config

variable {level : Option Nat} {kept : Options}

variable {ini : Ini} {name : String} {options : Options} {c : Command} {known : Options}

/-- The name of an option, and how it is read from a section. -/
abbrev Reader := String × (Ini → String → String → Except Fault Setting)

def optional (ini : Ini) (name : String) (r : Reader) : Except Fault (Option Setting) :=
  if ini.hasOption name r.1 then some <$> r.2 ini name r.1 else .ok none

lemma present_cons (r : Reader) (readers : List Reader) :
    present ini name (r :: readers) = do
      let v ← optional ini name r
      let rest ← present ini name readers
      return (v.map (r.1, ·)).toList ++ rest := by
  obtain ⟨option, read⟩ := r
  unfold present optional
  by_cases h : ini.hasOption name option = true
  · rw [List.filter_cons, if_pos h, List.mapM_cons, if_pos h]
    dsimp only
    cases read ini name option <;> rfl
  · rw [List.filter_cons, if_neg h, if_neg h]
    exact (bind_pure _).symm

lemma keys_present {readers : List Reader} (h : present ini name readers = .ok options) :
    (options.map Prod.fst).Sublist (readers.map Prod.fst) := by
  induction readers generalizing options with
  | nil =>
    cases h
    exact .slnil
  | cons r readers ih =>
    rw [present_cons] at h
    obtain ⟨v, -, h⟩ := bind_eq_ok h
    obtain ⟨rest, hrest, h⟩ := bind_eq_ok h
    cases h
    cases v with
    | none => exact (ih hrest).cons _
    | some v => exact (ih hrest).cons_cons _

lemma lookup_of_notMem {options : Options} {t : String} (h : t ∉ options.map Prod.fst) :
    options.lookup t = none := by
  refine List.lookup_eq_none_iff.mpr fun p hp => ?_
  simp only [bne_iff_ne]
  rintro rfl
  exact h (List.mem_map_of_mem hp)

lemma lookup_present {readers : List Reader} (h : present ini name readers = .ok options)
    (hnodup : (readers.map Prod.fst).Nodup) {r : Reader} (hr : r ∈ readers) :
    optional ini name r = .ok (options.lookup r.1) := by
  induction readers generalizing options with
  | nil => cases hr
  | cons r' readers ih =>
    rw [present_cons] at h
    obtain ⟨v, hv, h⟩ := bind_eq_ok h
    obtain ⟨rest, hrest, h⟩ := bind_eq_ok h
    cases h
    obtain ⟨hnew, hnodup⟩ := List.nodup_cons.mp hnodup
    have hrest' : rest.lookup r'.1 = none :=
      lookup_of_notMem fun hmem => hnew ((keys_present hrest).subset hmem)
    rcases List.mem_cons.mp hr with rfl | hr
    · rw [hv]
      cases v with
      | none => exact congrArg Except.ok hrest'.symm
      | some v => exact congrArg Except.ok List.lookup_cons_self.symm
    · have hne : r.1 ≠ r'.1 := by
        rintro heq
        exact hnew (heq ▸ List.mem_map_of_mem hr)
      rw [ih hrest hnodup hr]
      cases v with
      | none => rfl
      | some v =>
        change _ = Except.ok (List.lookup r.1 ((r'.1, v) :: rest))
        rw [List.lookup_cons, beq_eq_false_iff_ne.mpr hne]

lemma exists_present {readers : List Reader} (h : ∀ r ∈ readers, ∃ v, optional ini name r = .ok v) :
    ∃ options, present ini name readers = .ok options := by
  induction readers with
  | nil => exact ⟨[], rfl⟩
  | cons r readers ih =>
    obtain ⟨⟨v, hv⟩, hreaders⟩ := List.forall_mem_cons.mp h
    obtain ⟨rest, hrest⟩ := ih hreaders
    rw [present_cons, hv, hrest]
    exact ⟨_, rfl⟩

def readers : Command → List Reader
  | .check => [
    ("failfast", flag), ("check_tabs", flag), ("check_eol", flag), ("check_trailing", flag),
    ("check_encoding", flag), ("check_eol_at_eof", flag), ("check_relative_include", flag),
    ("check_copyright", flag), ("check_mode", flag), ("clang_format", flagOrText),
    ("maxlinelen", number), ("eol", eol), ("encoding", text)]
  | .fix => [
    ("tabsize", number), ("eol", eol), ("fix_trailing", flag), ("fix_mode", flag), ("clang_format", text)]
  | .updateCopyright => [("copyright_template_path", text), ("update", flag), ("year", number)]
  | .dumpConfig => []

def keptOption (ini : Ini) : Command → Except Fault Options
  | .check | .dumpConfig => .ok []
  | .fix => backup ini "fix"
  | .updateCopyright => backup ini "update-copyright"

lemma commandOptions_eq (hc : c ≠ .dumpConfig) :
    commandOptions true ini (.text c.name) = if ini.hasSection c.name then do
      let options ← present ini c.name (readers c)
      let kept ← keptOption ini c
      return options ++ kept ++ (← levelOption true ini)
    else .ok [] := by
  cases c with
  | check =>
    change checkOptions true ini = _
    unfold checkOptions
    cases hsection : ini.hasSection "check" with
    | false => rw [Command.name, hsection]; rfl
    | true =>
      rw [Command.name, hsection]
      refine congrArg (present ini "check" (readers .check) >>= ·) (funext fun options => ?_)
      rw [keptOption, ok_bind]
      simp only [List.append_nil]
  | fix =>
    change fixOptions true ini = ite (ini.hasSection "fix") _ _
    unfold fixOptions
    cases ini.hasSection "fix" <;> rfl
  | updateCopyright =>
    change updateOptions true ini = ite (ini.hasSection "update-copyright") _ _
    unfold updateOptions
    cases ini.hasSection "update-copyright" <;> rfl
  | dumpConfig => exact absurd rfl hc

lemma ne_dumpConfig_of_options (h : commandOptions true ini (.text c.name) = .ok known) :
    c ≠ .dumpConfig := by
  rintro rfl
  cases h

lemma keys_backup (h : backup ini name = .ok kept) : (kept.map Prod.fst).Sublist ["backup_ext"] := by
  unfold backup at h
  split at h
  · obtain ⟨v, -, h⟩ := bind_eq_ok h
    split at h
    · cases h
      exact .refl _
    · cases h
      exact List.nil_sublist _
  · cases h
    exact List.nil_sublist _

lemma keys_keptOption (h : keptOption ini c = .ok kept) : (kept.map Prod.fst).Sublist ["backup_ext"] := by
  cases c with
  | check => cases h; exact List.nil_sublist _
  | fix => exact keys_backup h
  | updateCopyright => exact keys_backup h
  | dumpConfig => cases h; exact List.nil_sublist _

def ofLevel (level : Option Nat) : Options := (level.map fun n => ("loglevel", .int n)).toList

lemma keys_ofLevel (level : Option Nat) : ((ofLevel level).map Prod.fst).Sublist ["loglevel"] := by
  cases level with
  | none => exact List.nil_sublist _
  | some n => exact .refl _

lemma levelOption_eq (h : Config.level true ini = .ok level) :
    levelOption true ini = .ok (ofLevel level) := by
  rw [levelOption, h]
  cases level <;> rfl

lemma commandOptions_eq_ok (h : commandOptions true ini (.text c.name) = .ok known)
    (hsection : ini.hasSection c.name = true) :
    ∃ options kept level, present ini c.name (readers c) = .ok options ∧
      keptOption ini c = .ok kept ∧ Config.level true ini = .ok level ∧
      known = options ++ kept ++ ofLevel level := by
  rw [commandOptions_eq (ne_dumpConfig_of_options h), if_pos hsection] at h
  obtain ⟨options, hoptions, h⟩ := bind_eq_ok h
  obtain ⟨kept, hkept, h⟩ := bind_eq_ok h
  obtain ⟨l, hl, h⟩ := bind_eq_ok h
  cases h
  cases hlevel : level true ini with
  | error f =>
    rw [levelOption, hlevel] at hl
    cases hl
  | ok level =>
    rw [levelOption_eq hlevel] at hl
    cases hl
    exact ⟨options, kept, level, hoptions, hkept, rfl, rfl⟩

def configTargets (c : Command) : List String :=
  (readers c).map Prod.fst ++ ["backup_ext"] ++ ["loglevel"]

lemma nodup_configTargets (c : Command) : (configTargets c).Nodup := by
  cases c <;> decide

lemma keys_commandOptions (h : commandOptions true ini (.text c.name) = .ok known) :
    (known.map Prod.fst).Sublist (configTargets c) := by
  cases hsection : ini.hasSection c.name with
  | false =>
    rw [commandOptions_eq (ne_dumpConfig_of_options h), hsection] at h
    cases h
    exact List.nil_sublist _
  | true =>
    obtain ⟨options, kept, level, hoptions, hkept, -, rfl⟩ := commandOptions_eq_ok h hsection
    rw [List.map_append, List.map_append]
    exact ((keys_present hoptions).append (keys_keptOption hkept)).append (keys_ofLevel level)

lemma proper_commandOptions (h : commandOptions true ini (.text c.name) = .ok known) : Values.Proper known :=
  (nodup_configTargets c).sublist (keys_commandOptions h)

lemma lookup_commandOptions_of_notMem (h : commandOptions true ini (.text c.name) = .ok known)
    {t : String} (ht : t ∉ configTargets c) : known.lookup t = none :=
  lookup_of_notMem fun hmem => ht ((keys_commandOptions h).subset hmem)

lemma lookup_leftTarget_commandOptions (h : commandOptions true ini (.text c.name) = .ok known) :
    known.lookup Request.leftTarget = none :=
  lookup_commandOptions_of_notMem h (by cases c <;> decide)

lemma lookup_commandOptions (h : commandOptions true ini (.text c.name) = .ok known)
    (hsection : ini.hasSection c.name = true) {r : Reader} (hr : r ∈ readers c) :
    optional ini c.name r = .ok (known.lookup r.1) := by
  obtain ⟨options, kept, level, hoptions, hkept, -, rfl⟩ := commandOptions_eq_ok h hsection
  have hmem : r.1 ∈ (readers c).map Prod.fst := List.mem_map_of_mem hr
  have hnodup : ((readers c).map Prod.fst).Nodup := by cases c <;> decide
  have hother : ∀ t ∈ (readers c).map Prod.fst, t ≠ "backup_ext" ∧ t ≠ "loglevel" := by
    cases c <;> decide
  have hnone : kept.lookup r.1 = none := lookup_of_notMem fun hkey =>
    (hother _ hmem).1 (List.mem_singleton.mp ((keys_keptOption hkept).subset hkey))
  have hnone' : (ofLevel level).lookup r.1 = none := lookup_of_notMem fun hkey =>
    (hother _ hmem).2 (List.mem_singleton.mp ((keys_ofLevel level).subset hkey))
  rw [lookup_present hoptions hnodup hr, List.lookup_append, List.lookup_append, hnone, hnone',
    Option.or_none, Option.or_none]

lemma lookup_level_commandOptions (h : commandOptions true ini (.text c.name) = .ok known)
    (hsection : ini.hasSection c.name = true) (hlevel : Config.level true ini = .ok level) :
    known.lookup "loglevel" = level.map fun n => .int n := by
  obtain ⟨options, kept, level', hoptions, hkept, hlevel', rfl⟩ := commandOptions_eq_ok h hsection
  cases hlevel.symm.trans hlevel'
  have hnone : options.lookup "loglevel" = none := lookup_of_notMem fun hkey =>
    (by cases c <;> decide : "loglevel" ∉ (readers c).map Prod.fst) ((keys_present hoptions).subset hkey)
  have hnone' : kept.lookup "loglevel" = none := lookup_of_notMem fun hkey =>
    absurd (List.mem_singleton.mp ((keys_keptOption hkept).subset hkey)) (by decide)
  rw [List.lookup_append, List.lookup_append, hnone, hnone']
  cases level <;> rfl

lemma exists_commandOptions (hc : c ≠ .dumpConfig) (hsection : ini.hasSection c.name = true)
    (hreaders : ∀ r ∈ readers c, ∃ v, optional ini c.name r = .ok v)
    (hkept : keptOption ini c = .ok kept) (hlevel : Config.level true ini = .ok level) :
    ∃ known, commandOptions true ini (.text c.name) = .ok known := by
  obtain ⟨options, hoptions⟩ := exists_present hreaders
  rw [commandOptions_eq hc, if_pos hsection, hoptions, hkept, levelOption_eq hlevel]
  exact ⟨_, rfl⟩

end SourceTidy.Config
