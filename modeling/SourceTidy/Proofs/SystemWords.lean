import SourceTidy.Proofs.ConfiguredRuns

/-!
# The words of the system

A call with words of its own still looks at the words that the system passed to the program, namely
when the own words name a configuration that can be read. Then, and only then, the words of the system
make a difference.
-/

namespace SourceTidy.Program

open Config Request

open Request Session

variable {w : World} {c : Command} {line words words' : List String} {values : Values} {ini : Ini}
  {p : Patterns} {known : Options}

/-- A line with which the program comes to read the words of the system: it is accepted, and the
configuration that it names gives options to the command. -/
structure Rereads (w : World) (line : List String) (c : Command) (values : Values) (known : Options) :
    Prop where
  accepted : request ⟨line, []⟩ w.year = .ok (c, values)
  level : ∃ n, levelOf (values.value "loglevel") = .ok n
  options : ∃ path data ini p, values.value "config" = .text path ∧ w.tree.read path = .ok data ∧
    ofFile path data = .ok ini ∧ patterns ini = .ok p ∧
    commandOptions true ini (.text c.name) = .ok known

lemma request_words (hline : line ≠ []) (words : List String) (year : Int) :
    request ⟨line, words⟩ year = request ⟨line, []⟩ year := by
  have hempty : line.isEmpty = false := by simpa using hline
  unfold request
  dsimp only
  rw [hempty, if_neg Bool.false_ne_true]
  rfl

lemma readConfig_eq_ok {path : Setting} {u u' : World} (h : (readConfig path).run u = (.ok ini, u')) :
    ∃ name data, path = .text name ∧ u.tree.read name = .ok data ∧ ofFile name data = .ok ini ∧ u' = u := by
  unfold readConfig at h
  split at h
  · next name =>
    obtain ⟨data, u₁, hdata, h⟩ := run_bind_eq_ok h
    rw [readFile, run_query] at hdata
    obtain ⟨hread, rfl⟩ := Prod.mk.inj hdata
    obtain ⟨hini, rfl⟩ := Prod.mk.inj ((run_lift _ _).symm.trans h)
    exact ⟨name, data, rfl, eq_ok_of_mapError hread, hini, rfl⟩
  · cases h

lemma configure_eq_ok {call : Call} {path : Setting} {u u' : World}
    {result : Exit ⊕ (Command × Values × Patterns)} (h : (configure call c path).run u = (.ok result, u')) :
    ∃ ini p known, (readConfig path).run u = (.ok ini, u) ∧ patterns ini = .ok p ∧
      commandOptions true ini (.text c.name) = .ok known ∧
      ((∃ e, read u.year true call.systemLine call.systemLine (some known) =
          .error (.exit e) ∧ result = .inl e) ∨
        ∃ c' values', read u.year true call.systemLine call.systemLine (some known) =
          .ok (c', values') ∧ result = .inr (c', values', p)) := by
  obtain ⟨ini, u₁, hini, hpatterns⟩ := run_bind_eq_ok h
  obtain ⟨-, -, -, -, -, rfl⟩ := readConfig_eq_ok hini
  obtain ⟨p, u₂, hlift, hoptions⟩ := run_bind_eq_ok hpatterns
  obtain ⟨hp, rfl⟩ := Prod.mk.inj ((run_lift _ _).symm.trans hlift)
  obtain ⟨known, u₃, hlift', hread⟩ := run_bind_eq_ok hoptions
  obtain ⟨hknown, rfl⟩ := Prod.mk.inj ((run_lift _ _).symm.trans hlift')
  rw [run_bind_ok (run_get _)] at hread
  refine ⟨ini, p, known, hini, hp, hknown, ?_⟩
  cases hwords : read u₁.year true call.systemLine call.systemLine (some known) with
  | error stop =>
    rw [hwords] at hread
    cases stop with
    | exit e =>
      cases hread
      exact .inl ⟨e, rfl, rfl⟩
    | fault f => cases hread
  | ok x =>
    obtain ⟨c', values'⟩ := x
    rw [hwords] at hread
    obtain ⟨_, _, _, hresult⟩ := run_bind_eq_ok hread
    cases hresult
    exact .inr ⟨c', values', rfl, rfl⟩

lemma run_configure_congr {call call' : Call} {path : Setting} {u : World}
    (h : ∀ ini p known, (readConfig path).run u = (.ok ini, u) → patterns ini = .ok p →
      commandOptions true ini (.text c.name) = .ok known →
      read u.year true call'.systemLine call'.systemLine (some known) =
        read u.year true call.systemLine call.systemLine (some known)) :
    (configure call' c path).run u = (configure call c path).run u := by
  unfold configure
  rcases hini : (readConfig path).run u with ⟨r, u'⟩
  cases r with
  | error f => rw [run_bind_error hini, run_bind_error hini]
  | ok ini =>
    obtain ⟨-, -, -, -, -, rfl⟩ := readConfig_eq_ok hini
    rw [run_bind_ok hini, run_bind_ok hini]
    cases hp : patterns ini with
    | error f => rfl
    | ok p =>
      cases hknown : commandOptions true ini (.text c.name) with
      | error f => rfl
      | ok known =>
        have hlift : (lift (.ok p : Except Fault Patterns)).run u' = (.ok p, u') := rfl
        have hlift' : (lift (.ok known : Except Fault Options)).run u' = (.ok known, u') := rfl
        rw [run_bind_ok hlift, run_bind_ok hlift, run_bind_ok hlift', run_bind_ok hlift',
          run_bind_ok (run_get u'), run_bind_ok (run_get u'), h ini p known hini hp hknown]

lemma run_prepare_congr (haccepted : request ⟨line, []⟩ w.year = .ok (c, values))
    (h : ∀ known, Rereads w line c values known →
      read w.year true words' words' (some known) = read w.year true words words (some known)) :
    (prepare ⟨line, words'⟩ c values).run (started w) = (prepare ⟨line, words⟩ c values).run (started w) := by
  unfold prepare
  cases hn : levelOf (values.value "loglevel") with
  | error f =>
    rw [run_bind_error (run_setLevel_error hn _), run_bind_error (run_setLevel_error hn _)]
  | ok n =>
    rw [run_bind_ok (run_setLevel_ok hn _), run_bind_ok (run_setLevel_ok hn _)]
    generalize hu : ({ started w with threshold := n } : World) = u
    have htree : u.tree = w.tree := hu ▸ rfl
    have hyear : u.year = w.year := hu ▸ rfl
    have hsame : (configure ⟨line, words'⟩ c (values.value "config")).run u =
        (configure ⟨line, words⟩ c (values.value "config")).run u := by
      refine run_configure_congr fun ini p known hini hp hknown => ?_
      obtain ⟨path, data, hconfig, hdata, hfile, -⟩ := readConfig_eq_ok hini
      rw [hyear]
      exact h known ⟨haccepted, ⟨n, hn⟩, path, data, ini, p, hconfig, htree ▸ hdata, hfile, hp, hknown⟩
    split
    · rfl
    · rw [run_bind, hsame, run_bind]

lemma execute_congr {call call' : Call} (hrequest : request call' w.year = request call w.year)
    (h : ∀ c values, request call w.year = .ok (c, values) →
      (prepare call' c values).run (started w) = (prepare call c values).run (started w)) :
    execute call' w = execute call w := by
  have hyear : (started w).year = w.year := rfl
  cases hok : request call w.year with
  | error stop =>
    unfold execute
    dsimp only
    rw [hyear, hrequest, hok]
    cases stop <;> rfl
  | ok x =>
    obtain ⟨c, values⟩ := x
    have hobey : (obey call' c values).run (started w) = (obey call c values).run (started w) := by
      rw [obey, obey, run_bind, run_bind, h c values hok]
    rw [execute_of_request hok, execute_of_request (hrequest.trans hok)]
    refine congrArg outcome ?_
    rw [obeyOrReport, obeyOrReport, run_bind, run_bind, run_attempt, run_attempt, hobey]

lemma execute_words_congr (hline : line ≠ [])
    (h : ∀ c values known, Rereads w line c values known →
      read w.year true words' words' (some known) = read w.year true words words (some known)) :
    execute ⟨line, words'⟩ w = execute ⟨line, words⟩ w := by
  refine execute_congr ?_ fun c values hok => ?_
  · rw [request_words hline words', request_words hline words]
  · rw [request_words hline] at hok
    exact run_prepare_congr hok (h c values)

lemma ending_of_exit (hline : line ≠ []) (h : Rereads w line c values known) {e : Exit}
    (hread : read w.year true words words (some known) = .error (.exit e)) :
    (execute ⟨line, words⟩ w).ending = .exited e.code := by
  obtain ⟨n, hn⟩ := h.level
  obtain ⟨path, data, ini, p, hconfig, hdata, hfile, hp, hknown⟩ := h.options
  let v : World := { started w with threshold := n }
  have hini : (readConfig (.text path)).run v = (.ok ini, v) := run_readConfig hdata hfile
  have hconfigure : (configure ⟨line, words⟩ c (.text path)).run v = (.ok (.inl e), v) := by
    have hyear : v.year = w.year := rfl
    rw [configure, run_bind_ok hini, run_lift_bind hp, run_lift_bind hknown, run_bind_ok (run_get v), hyear,
      hread]
    rfl
  have hprepare : (prepare ⟨line, words⟩ c values).run (started w) = (.ok (.inl e), v) := by
    rw [prepare, run_bind_ok (run_setLevel_ok hn _), hconfig]
    exact run_bind_ok hconfigure _
  have hobey : (obey ⟨line, words⟩ c values).run (started w) = (.ok (.inl e), v) := by
    rw [obey, run_bind_ok hprepare]
    rfl
  have hattempt := run_attempt (obey ⟨line, words⟩ c values) (started w)
  rw [hobey] at hattempt
  have hrun : (obeyOrReport ⟨line, words⟩ c values).run (started w) = (.ok (.inl e), v) := by
    rw [obeyOrReport, run_bind_ok hattempt]
    rfl
  rw [execute_of_request ((request_words hline words _).trans h.accepted), hrun]
  rfl

lemma read_no_words (year : Int) (known : Values) :
    ∃ e, read year true [] [] (some known) = .error (.exit e) ∧ e.code = 2 :=
  ⟨_, rfl, rfl⟩

lemma read_version (year : Int) (known : Values) :
    ∃ e, read year true ["--version"] ["--version"] (some known) = .error (.exit e) ∧
      e.code = 0 :=
  ⟨_, rfl, rfl⟩

/-- A call with words of its own depends on the words of the system exactly if it comes to read them
over the options of a configuration. -/
theorem system_words_matter_iff (hline : line ≠ []) (w : World) :
    ((∃ c values known, Rereads w line c values known) →
      ∃ words words', (execute ⟨line, words⟩ w).ending ≠ (execute ⟨line, words'⟩ w).ending) ∧
    ((¬∃ c values known, Rereads w line c values known) →
      ∀ words words', execute ⟨line, words⟩ w = execute ⟨line, words'⟩ w) := by
  constructor
  · rintro ⟨c, values, known, h⟩
    obtain ⟨e, hread, hcode⟩ := read_no_words w.year known
    obtain ⟨e', hread', hcode'⟩ := read_version w.year known
    refine ⟨[], ["--version"], ?_⟩
    rw [ending_of_exit hline h hread, ending_of_exit hline h hread', hcode, hcode']
    decide
  · intro hnone words words'
    refine execute_words_congr hline fun c values known h => ?_
    exact absurd ⟨c, values, known, h⟩ hnone

def levelWorld : World := iniWorld levelText "a.c" [0x78, 0x0a]

lemma rereads_levelWorld : Rereads levelWorld ["check", "-c", "c.ini", "a.c"] .check
    (lineValues .check ["-c", "c.ini", "a.c"]) [] := by
  have hp : levelWorld.tree.Plain := by decide
  have hini : ofFile "c.ini" (Text.encode levelText.toList) =
      .ok ⟨[], [("logging", [("loglevel", "ERROR")])]⟩ := by decide +kernel
  exact ⟨rfl, ⟨Level.info.number, rfl⟩, "c.ini", _, _, _, rfl,
    FileTree.read_of_locate (Path.locate_name hp rfl) rfl, hini, rfl, rfl⟩

/-- Words of the system matter to a line with a configuration, and not to one without. -/
theorem system_words_matter_with_config :
    (∃ words words', (execute ⟨["check", "-c", "c.ini", "a.c"], words⟩ levelWorld).ending ≠
      (execute ⟨["check", "-c", "c.ini", "a.c"], words'⟩ levelWorld).ending) ∧
    ∀ words words', execute ⟨["check", "a.c"], words⟩ levelWorld =
      execute ⟨["check", "a.c"], words'⟩ levelWorld := by
  refine ⟨(system_words_matter_iff (List.cons_ne_nil _ _) levelWorld).1
    ⟨_, _, _, rereads_levelWorld⟩, (system_words_matter_iff (List.cons_ne_nil _ _) levelWorld).2 ?_⟩
  rintro ⟨c, values, known, h⟩
  have haccepted : request ⟨["check", "a.c"], []⟩ 2024 = .ok (.check, lineValues .check ["a.c"]) := rfl
  obtain ⟨rfl, rfl⟩ := Prod.mk.inj (Except.ok.inj (haccepted.symm.trans h.accepted))
  obtain ⟨path, -, -, -, hconfig, -⟩ := h.options
  have hnone : (lineValues .check ["a.c"]).value "config" = .none := rfl
  cases hnone.symm.trans hconfig

/-- The words of the call ask for a check of a file. Without words of the system they are refused, and
other words of the system make the program show its version. -/
theorem system_words_replace_own :
    (execute ⟨["check", "-c", "c.ini", "a.c"], []⟩ levelWorld).ending = .exited 2 ∧
      (execute ⟨["check", "-c", "c.ini", "a.c"], ["--version"]⟩ levelWorld).ending = .exited 0 := by
  obtain ⟨e, hread, hcode⟩ := read_no_words levelWorld.year []
  obtain ⟨e', hread', hcode'⟩ := read_version levelWorld.year []
  rw [ending_of_exit (List.cons_ne_nil _ _) rereads_levelWorld hread,
    ending_of_exit (List.cons_ne_nil _ _) rereads_levelWorld hread', hcode, hcode']
  exact ⟨rfl, rfl⟩

end SourceTidy.Program
