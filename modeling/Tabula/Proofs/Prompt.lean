import Mathlib.Tactic.SplitIfs
import Tabula.Cli.Run

/-!
# The prompt

The prompt answers the lines before the first `exit` in order and then says goodbye
(`simulate_prompt_answers_lines_before_exit`).
-/

namespace Tabula.Cli

/-- Whether a line read at the prompt asks to stop: trimmed, it is `exit` in any ASCII case. -/
def asksToStop (line : String) : Bool :=
  Text.toUpperAscii (Text.trim line) == "EXIT"

/-- What the prompt prints on the standard output for an answer: its text and a line feed. -/
def shown : Except Error String → String
  | .ok text => text ++ "\n"
  | .error _ => ""

/-- What the prompt prints on the standard error for an answer: the error's message. -/
def reported : Except Error String → String
  | .ok _ => ""
  | .error e => "Error: " ++ e.message ++ "\n"

/-! ## Running a statement prints nothing -/

namespace World

/-- A computation on the model machine that prints nothing. -/
def Quiet {α : Type} (x : StateM World α) : Prop :=
  ∀ w, (x.run w).2.stdout = w.stdout ∧ (x.run w).2.stderr = w.stderr

namespace Quiet

variable {α β : Type}

theorem pure (a : α) : Quiet (pure a : StateM World α) :=
  fun _ => ⟨rfl, rfl⟩

theorem bind {x : StateM World α} {f : α → StateM World β} (hx : Quiet x)
    (hf : ∀ a, Quiet (f a)) : Quiet (x >>= f) := by
  intro w
  obtain ⟨h₁, h₂⟩ := hx w
  obtain ⟨h₃, h₄⟩ := hf (x.run w).1 (x.run w).2
  exact ⟨h₃.trans h₁, h₄.trans h₂⟩

end Quiet

theorem quiet_tableFile (path : String) : Quiet (host.tableFile path) :=
  fun _ => ⟨rfl, rfl⟩

/-- Writing a file changes the files only. -/
theorem output_of_write {w w' : World} {path : String} {data : List UInt8}
    (h : w.write path data = .ok w') :
    w'.stdout = w.stdout ∧ w'.stderr = w.stderr := by
  unfold write at h
  dsimp only at h
  split_ifs at h
  cases h
  exact ⟨rfl, rfl⟩

theorem quiet_change {f : World → Except String World}
    (hf : ∀ w w', f w = .ok w' → w'.stdout = w.stdout ∧ w'.stderr = w.stderr) :
    Quiet (change f) := by
  intro w
  cases hfw : f w with
  | error msg =>
      simp only [change, StateT.run_bind, StateT.run_get, pure_bind, hfw, StateT.run_pure]
      exact ⟨rfl, rfl⟩
  | ok w' =>
      simp only [change, bind_pure_comp, StateT.run_bind, StateT.run_get, pure_bind, hfw,
        StateT.run_map, StateT.run_set, map_pure]
      exact hf w w' hfw

theorem quiet_writeFile (path : String) (data : List UInt8) : Quiet (host.writeFile path data) :=
  quiet_change fun _ _ => output_of_write

theorem quiet_filterMapM {α β : Type} {f : α → StateM World (Option β)} (hf : ∀ a, Quiet (f a))
    (l : List α) : Quiet (l.filterMapM f) := by
  induction l with
  | nil => exact Quiet.pure _
  | cons a l ih =>
      rw [List.filterMapM_cons]
      refine (hf a).bind fun o => ?_
      cases o with
      | none => exact ih
      | some b => exact ih.bind fun _ => Quiet.pure _

end World

theorem quiet_writeBack (root : String) (before after : List (String × FileRead)) :
    World.Quiet (writeBack World.host root before after) := by
  induction after with
  | nil => exact World.Quiet.pure _
  | cons p after ih =>
      obtain ⟨f, file⟩ := p
      unfold writeBack
      split
      · refine (World.quiet_writeFile _ _).bind fun r => ?_
        cases r with
        | error msg => exact World.Quiet.pure _
        | ok u => exact ih
      · exact ih

/-- Running a statement reads and writes table files and prints nothing. -/
theorem Session.quiet_render (s : Session) (sql : String) :
    World.Quiet (s.render World.host sql) := by
  rw [Session.render]
  split
  · exact World.Quiet.pure _
  · refine (World.quiet_filterMapM (fun f => ?_) _).bind fun files => ?_
    · exact (World.quiet_tableFile _).bind fun _ => World.Quiet.pure _
    · dsimp only
      split
      · exact World.Quiet.pure _
      · refine (quiet_writeBack _ _ _).bind fun r => ?_
        cases r with
        | error e => exact World.Quiet.pure _
        | ok u => exact World.Quiet.pure _

/-! ## The loop -/

/-- A step of a run on the model machine whose outcome is known. -/
theorem run_bind_of_eq {σ α β : Type} {x : StateM σ α} {f : α → StateM σ β} {v v' : σ} {a : α}
    (h : x.run v = (a, v')) : (x >>= f).run v = (f a).run v' := by
  rw [StateT.run_bind, h]
  rfl

namespace Session

/-- The machine after the prompt answered a line that does not ask to stop. -/
def afterLine (s : Session) (w : World) (line : String) : World :=
  if (Text.trim line).isEmpty then { w with stdout := w.stdout ++ promptText }
  else
    let r := (s.render World.host (Text.trim line)).run w
    { r.2 with stdout := w.stdout ++ shown r.1 ++ promptText, stderr := w.stderr ++ reported r.1 }

/-- The machine after the prompt read `lines`: the lines before the first that asks to stop
are answered in order, each against the machine the ones before it left, then goodbye. -/
def afterPrompt (s : Session) (w : World) (lines : List String) : World :=
  let v := (lines.takeWhile fun l => !asksToStop l).foldl s.afterLine w
  { v with stdout := v.stdout ++ goodbye }

variable (s : Session)

theorem answer_of_asksToStop {line : String} (h : asksToStop line = true) (w : World) :
    (s.answer World.host line).run w = (false, w) := by
  simp only [asksToStop] at h
  simp only [answer, h, ↓reduceIte, StateT.run_pure]
  rfl

theorem answer_of_not_asksToStop {line : String} (h : asksToStop line = false) (w : World) :
    (s.answer World.host line).run w = (true, s.afterLine w line) := by
  simp only [asksToStop] at h
  by_cases hblank : (Text.trim line).isEmpty
  · simp only [answer, h, Bool.false_eq_true, ↓reduceIte, hblank, Bool.not_true, bind_pure_comp,
      StateT.run_map, afterLine]
    rfl
  · obtain ⟨hout, herr⟩ := s.quiet_render (Text.trim line) w
    cases hr : (s.render World.host (Text.trim line)).run w with
    | mk res w₁ =>
        rw [hr] at hout herr
        obtain ⟨cwd, files, dirs, out, err⟩ := w₁
        dsimp only at hout herr
        subst hout herr
        simp only [answer, h, Bool.false_eq_true, ↓reduceIte, hblank, Bool.not_false,
          bind_pure_comp, StateT.run_bind, hr, afterLine]
        cases res with
        | ok text =>
            simp only [shown, reported, String.append_empty]
            rfl
        | error e =>
            simp only [shown, reported, String.append_empty]
            rfl

/-- The loop on the model machine: the lines before the first that asks to stop are
answered in order, then goodbye; no line after it is read. -/
theorem converse_run (lines : List String) (w : World) :
    (s.converse World.host lines).run w = ((), s.afterPrompt w lines) := by
  induction lines generalizing w with
  | nil => rfl
  | cons line rest ih =>
      cases hstop : asksToStop line with
      | true =>
          rw [converse]
          simp only [StateT.run_bind, s.answer_of_asksToStop hstop]
          simp only [afterPrompt, hstop, Bool.not_true, Bool.false_eq_true, not_false_eq_true,
            List.takeWhile_cons_of_neg, List.foldl_nil]
          rfl
      | false =>
          have hstep : (s.converse World.host (line :: rest)).run w =
              (s.converse World.host rest).run (s.afterLine w line) := by
            rw [converse]
            simp only [StateT.run_bind, s.answer_of_not_asksToStop hstop]
            rfl
          rw [hstep, ih]
          simp [afterPrompt, hstop]

end Session

/-! ## A whole run -/

/-- The path `.` names the working folder. -/
theorem locate_dot (cwd : Place) : locate cwd "." = cwd := by
  have hsplit : ".".splitOn "/" = ["."] := by
    rw [String.splitOn, if_neg (by decide), String.splitOnAux, if_neg (by decide),
      if_neg (by decide), String.splitOnAux, if_pos (by decide)]
    decide
  simp [locate, hsplit]

/-- A run of the command line that reaches the prompt: it greets, answers the lines of its
input before the first that asks to stop, says goodbye and ends with status 0. -/
theorem simulate_prompt_answers_lines_before_exit {w w₀ w₁ : World}
    {env : String → Option String} {args : List String} {o : Options} {c : Config}
    {s : Session} (input : String)
    (hargs : parseArgs args = .run o) (hcmd : o.command = none)
    (hset : (settings World.host env o).run w = (.ok c, w₀))
    (hopen : (openSession World.host c).run w₀ = (.ok s, w₁)) :
    simulate w env args input =
      (0, s.afterPrompt { w₁ with stdout := w₁.stdout ++ greeting ++ promptText }
        (inputLines input)) := by
  simp only [simulate, program, hargs]
  rw [run_bind_of_eq hset]
  dsimp only
  rw [run_bind_of_eq hopen]
  dsimp only
  rw [hcmd]
  dsimp only
  have hgreet : (World.host.out (greeting ++ promptText)).run w₁ =
      ((), { w₁ with stdout := w₁.stdout ++ greeting ++ promptText }) := by
    rw [String.append_assoc]
    rfl
  rw [run_bind_of_eq hgreet, run_bind_of_eq (Session.converse_run s _ _)]
  rfl

/-- With no arguments and no variables the prompt opens on the working folder; on the input
of a blank line, `exit` and a query, it answers the blank line only. -/
theorem simulate_prompt_stops_at_exit :
    parseArgs [] = .run {} ∧ ({} : Options).command = none ∧
    (settings World.host (fun _ => none) {}).run ⟨[], [], [], "", ""⟩ =
      (.ok {}, ⟨[], [], [], "", ""⟩) ∧
    (openSession World.host {}).run ⟨[], [], [], "", ""⟩ =
      (.ok ⟨".", {}⟩, ⟨[], [], [], "", ""⟩) ∧
    simulate ⟨[], [], [], "", ""⟩ (fun _ => none) [] "\nexit\nSELECT * FROM t\n" =
      (0, Session.afterPrompt ⟨".", {}⟩ ⟨[], [], [], "" ++ greeting ++ promptText, ""⟩
        (inputLines "\nexit\nSELECT * FROM t\n")) := by
  have hopen : (openSession World.host {}).run ⟨[], [], [], "", ""⟩ =
      (.ok ⟨".", {}⟩, ⟨[], [], [], "", ""⟩) := by
    simp only [openSession, World.host, bind_pure_comp, World.change, World.makeDirs, World.isDir,
      List.contains_eq_mem, Bool.or_eq_true, List.isEmpty_iff, decide_eq_true_eq, Bool.not_or,
      locate_dot, bind_assoc]
    rfl
  exact ⟨rfl, rfl, rfl, hopen,
    @simulate_prompt_answers_lines_before_exit ⟨[], [], [], "", ""⟩ ⟨[], [], [], "", ""⟩
      ⟨[], [], [], "", ""⟩ (fun _ => none) [] {} {} ⟨".", {}⟩ _ rfl rfl rfl hopen⟩

end Tabula.Cli
