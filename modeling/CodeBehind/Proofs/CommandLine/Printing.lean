import CodeBehind.CommandLine.Arguments

/-!
# Asking for the texts

A command line with the option for printing in front asks for the same, with the texts printed.

Words are gone through one after the other, and the flag for printing is only ever turned on. So it makes no difference
to the rest of the words whether it is on already, and the search with the flag on is the search without it, with the
flag turned on at the end.

## Main results

* `parse_stdout`: What the option for printing adds to a command line.

## Theorems

* `collect_printing`: The words after the option.
-/

namespace CodeBehind

namespace CommandLine

/-- The same as has been found so far, with the texts printed. -/
def Found.printing (found : Found) : Found :=
  { found with arguments := { found.arguments with stdout := true } }

theorem addPlain_printing (found : Found) (text : String) :
    found.printing.addPlain text = (found.addPlain text).printing := by
  unfold Found.addPlain
  by_cases hafter : found.progress = .after
  · rw [if_pos hafter, if_pos (show found.printing.progress = .after from hafter)]
    rfl
  · rw [if_neg hafter, if_neg (show ¬ found.printing.progress = .after from hafter)]
    rfl

theorem addRest_printing (found : Found) (rest : List String) :
    found.printing.addRest rest = (found.addRest rest).printing := by
  unfold Found.addRest
  by_cases hafter : found.progress = .after
  · rw [if_pos hafter, if_pos (show found.printing.progress = .after from hafter)]
    rfl
  · rw [if_neg hafter, if_neg (show ¬ found.printing.progress = .after from hafter)]
    rfl

theorem set_printing (found : Found) (switch : Switch) (value : String) :
    ({ found.printing.endRun with arguments := found.printing.arguments.set switch value } : Found) =
      Found.printing { found.endRun with arguments := found.arguments.set switch value } := by
  cases switch <;> rfl

theorem turnOn_printing (found : Found) (switch : Switch) :
    ({ found.printing.endRun with arguments := found.printing.arguments.turnOn switch } : Found) =
      Found.printing { found.endRun with arguments := found.arguments.turnOn switch } := by
  cases switch <;> rfl

/-- An option that takes no value is turned on, unless it is the one for help, whatever follows. -/
theorem collect_option (found : Found) (switch : Switch) (rest : List Word) (h : ¬ switch.takesValue = true) :
    collect found (.option switch none :: rest) =
      if switch = .help then .error .help
      else collect { found.endRun with arguments := found.arguments.turnOn switch } rest := by
  rw [collect.eq_def]
  simp only [if_neg h]

/-- Going through words with the flag on is going through them without it, and then turning it on. -/
theorem collect_printing (words : List Word) (found : Found) :
    collect found.printing words = (collect found words).map Found.printing := by
  fun_induction collect found words with
  | case1 found => rfl
  | case2 found text rest ih => rw [collect, addPlain_printing, ih]
  | case3 found text rest ih =>
      rw [collect]
      exact ih
  | case4 found letters rest => rfl
  | case5 found switch value rest htakes ih =>
      rw [collect, if_pos htakes, set_printing]
      exact ih
  | case6 found switch value rest htakes =>
      rw [collect, if_neg htakes]
      rfl
  | case7 found switch htakes value rest ih =>
      rw [collect, if_pos htakes, set_printing]
      exact ih
  | case8 found switch rest htakes hrest =>
      -- Without a plain word to follow, the option is missing its value with the flag and without it.
      rw [collect, if_pos htakes]
      · rfl
      · exact hrest
  | case9 found rest htakes =>
      rw [collect_option _ _ _ htakes, if_pos rfl]
      rfl
  | case10 found switch rest htakes hhelp ih =>
      rw [collect_option _ _ _ htakes, if_neg hhelp, turnOn_printing]
      exact ih

/-- What is found in the end, with the words from the separator on. -/
def Found.close (found : Found) (words : List String) : Found :=
  match words with
  | _ :: rest => found.addRest rest
  | [] => found

/-- What has been found is accepted if there are paths and nothing is left over. -/
def Found.answer (found : Found) : Except Stop Arguments :=
  if found.arguments.paths.isEmpty then .error (.wrong "the following arguments are required: paths")
  else if found.leftOver.isEmpty then .ok found.arguments
  else .error (.wrong ("unrecognized arguments: " ++ " ".intercalate found.leftOver))

theorem parse_eq (words : List String) :
    parse words = ((words.takeWhile (· ≠ separator)).mapM classify >>= fun options =>
      collect {} options >>= fun found => (found.close (words.dropWhile (· ≠ separator))).answer) :=
  rfl

theorem answer_printing (found : Found) (words : List String) :
    (found.printing.close words).answer =
      (found.close words).answer.map fun arguments => { arguments with stdout := true } := by
  have hclose : found.printing.close words = (found.close words).printing := by
    unfold Found.close
    cases words with
    | nil => rfl
    | cons _ rest => exact addRest_printing found rest
  rw [hclose]
  unfold Found.answer
  -- The checks look at the paths and at what is left over, and both are the same.
  by_cases hpaths : (found.close words).arguments.paths.isEmpty = true
  · rw [if_pos hpaths, if_pos (show (found.close words).printing.arguments.paths.isEmpty = true from hpaths)]
    rfl
  rw [if_neg hpaths, if_neg (show ¬ (found.close words).printing.arguments.paths.isEmpty = true from hpaths)]
  by_cases hleft : (found.close words).leftOver.isEmpty = true
  · rw [if_pos hleft, if_pos (show (found.close words).printing.leftOver.isEmpty = true from hleft)]
    rfl
  · rw [if_neg hleft, if_neg (show ¬ (found.close words).printing.leftOver.isEmpty = true from hleft)]
    rfl

/-- With the option for printing in front, the same is asked for, and the texts are printed. -/
theorem parse_stdout (words : List String) :
    parse (Switch.stdout.spelling :: words) =
      (parse words).map fun arguments => { arguments with stdout := true } := by
  have hword : classify Switch.stdout.spelling = .ok (.option .stdout none) := rfl
  have hne : decide (Switch.stdout.spelling ≠ separator) = true := by decide
  have htake : (Switch.stdout.spelling :: words).takeWhile (· ≠ separator) =
      Switch.stdout.spelling :: words.takeWhile (· ≠ separator) := List.takeWhile_cons_of_pos hne
  have hdrop : (Switch.stdout.spelling :: words).dropWhile (· ≠ separator) = words.dropWhile (· ≠ separator) :=
    List.dropWhile_cons_of_pos hne
  rw [parse_eq, parse_eq, htake, hdrop, List.mapM_cons, hword]
  cases (words.takeWhile (· ≠ separator)).mapM classify with
  | error stop => rfl
  | ok options =>
      have hcollect : collect {} (.option .stdout none :: options) = collect (Found.printing {}) options :=
        collect_option {} .stdout options Bool.false_ne_true
      simp only [bind, Except.bind, pure, Except.pure, hcollect, collect_printing]
      cases collect {} options with
      | error stop => rfl
      | ok found => exact answer_printing found _

end CommandLine

end CodeBehind
