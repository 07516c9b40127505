import Mathlib.Data.Nat.Digits
import VolSync.Rsync.Client

set_option autoImplicit false

/-!
# What reaches the shell

Every client pod runs `/bin/bash -c` on a script that `getRsyncCommand` writes by
pasting strings together: the rsync options, the mount path, the username, the transport's
hostname and the module name. Nothing is quoted, so a value is harmless only when it is
a shell word, a non-empty run of `[A-Za-z0-9@:/=,._-]` (`isShellWord`).

`AsRsyncCommandOptions` makes all but one of its options such words: the flags are fixed
text, `--bwlimit` carries a positive number, `--info` and the extras keep only the values
that pass the two regular expressions. The exception is `--log-file`, whose value is
pasted as given. The mount path and the module name are built from the PVC's namespace and
label-safe name, which `pvc.go` promises fit a label value; the username and the hostname
are never checked.

* `rsyncCommandLine_shellWords`: **what the script runs**: `/usr/bin/rsync` and its words,
  each a shell word except the `--log-file` option and, unless the username and hostname are
  shell words, the URL of the module.
* `logFile_reaches_script`: a log file path with a command separator in it passes
  `AsRsyncCommandOptions` without an error and lands in the script unchanged.
-/

namespace VolSync

namespace Rsync

/-! ### Shell words -/

/-- A character that a shell takes as itself inside a word: `[A-Za-z0-9@:/=,._-]`. -/
def isShellWordChar (c : Char) : Bool :=
  isUpperAscii c || isLowerAscii c || isDigitAscii c ||
    c ∈ ['@', ':', '/', '=', ',', '.', '_', '-']

/-- A word that `bash -c` reads as one argument, with no expansion, quote or command
separator in it. -/
def isShellWord (s : String) : Bool := !s.data.isEmpty && s.data.all isShellWordChar

theorem isShellWord_append {a b : String} (ha : isShellWord a = true)
    (hb : b.data.all isShellWordChar = true) : isShellWord (a ++ b) = true := by
  simp only [isShellWord, Bool.and_eq_true, Bool.not_eq_true', List.isEmpty_eq_false] at ha ⊢
  simp_all [List.all_append]

theorem intercalate_go_all {p : Char → Bool} {sep : String} (hsep : sep.data.all p = true) :
    ∀ (xs : List String) (acc : String), acc.data.all p = true →
      (∀ x ∈ xs, x.data.all p = true) → (String.intercalate.go acc sep xs).data.all p = true
  | [], _, hacc, _ => hacc
  | x :: xs, acc, hacc, hxs => by
    refine intercalate_go_all hsep xs _ ?_ fun y hy => hxs y (List.mem_cons_of_mem _ hy)
    simp_all [List.all_append]

theorem intercalate_all {p : Char → Bool} {sep : String} (hsep : sep.data.all p = true) :
    ∀ {xs : List String}, (∀ x ∈ xs, x.data.all p = true) →
      (sep.intercalate xs).data.all p = true
  | [], _ => rfl
  | x :: xs, hxs => intercalate_go_all hsep xs x (hxs x (List.mem_cons_self _ _))
      fun y hy => hxs y (List.mem_cons_of_mem _ hy)

/-! ### The validated values -/

/-- A list split by `span` at the first character failing `p` has all its characters in
`q` when the characters of `p` are in `q` and so is the rest. -/
theorem all_of_span {p q : Char → Bool} {l pre post : List Char} (h : l.span p = (pre, post))
    (hpq : ∀ c, p c = true → q c = true) (hpost : post.all q = true) : l.all q = true := by
  rw [List.span_eq_take_drop, Prod.mk.injEq] at h
  rw [← List.takeWhile_append_dropWhile p l, List.all_append, h.2, hpost, Bool.and_true,
    List.all_eq_true]
  exact fun c hc => hpq c (List.mem_takeWhile_imp hc)

theorem digitChar_isDigitAscii : ∀ d < 10, isDigitAscii (Nat.digitChar d) = true := by
  decide

theorem toDigitsCore_all :
    ∀ (fuel n : Nat) (ds : List Char), ds.all isDigitAscii = true →
      (Nat.toDigitsCore 10 fuel n ds).all isDigitAscii = true
  | 0, _, _, h => h
  | fuel + 1, n, ds, h => by
    have hd : isDigitAscii (Nat.digitChar (n % 10)) = true :=
      digitChar_isDigitAscii _ (Nat.mod_lt _ (by decide))
    simp only [Nat.toDigitsCore]
    split
    · simp [hd, h]
    · exact toDigitsCore_all fuel _ _ (by simp [hd, h])

theorem toString_pos_all {n : Int} (h : 0 < n) :
    (toString n).data.all isDigitAscii = true := by
  obtain ⟨m, rfl⟩ := Int.eq_ofNat_of_zero_le (Int.le_of_lt h)
  exact toDigitsCore_all _ _ _ rfl

theorem isShellWordChar_of_upper {c : Char} (h : isUpperAscii c = true) :
    isShellWordChar c = true := by
  simp [isShellWordChar, h]

theorem isShellWordChar_of_lower {c : Char} (h : isLowerAscii c = true) :
    isShellWordChar c = true := by
  simp [isShellWordChar, h]

theorem infoOptionMatches_all {s : String} (h : infoOptionMatches s = true) :
    s.data.all isShellWordChar = true := by
  unfold infoOptionMatches at h
  split at h
  · cases h
  next heq => exact all_of_span heq (fun _ => isShellWordChar_of_upper) rfl
  next heq => exact all_of_span heq (fun _ => isShellWordChar_of_upper) (by simp [isShellWordChar, h])
  · cases h

theorem extraOptionBody_all {cs : List Char} (h : extraOptionBody cs = true) :
    cs.all isShellWordChar = true := by
  unfold extraOptionBody at h
  split at h
  · cases h
  next heq => exact all_of_span heq (fun _ => isShellWordChar_of_lower) rfl
  next heq =>
    refine all_of_span heq (fun _ => isShellWordChar_of_lower) ?_
    simp only [Bool.and_eq_true, List.all_eq_true] at h
    simp only [List.all_cons, List.all_eq_true, Bool.and_eq_true]
    exact ⟨by decide, fun c hc => isShellWordChar_of_lower (h.2 c hc)⟩
  · cases h

theorem isShellWord_of_extraOptionMatches {s : String} (h : extraOptionMatches s = true) :
    isShellWord s = true := by
  unfold extraOptionMatches at h
  unfold isShellWord
  split at h
  · rename_i body hs
    have hs' : s.data = '-' :: '-' :: body := hs
    simp [hs', extraOptionBody_all h, isShellWordChar]
  · rename_i body _ hs
    have hs' : s.data = '-' :: body := hs
    simp [hs', extraOptionBody_all h, isShellWordChar]
  · cases h

/-! ### The options -/

/-- Every word of `AsRsyncCommandOptions` other than `--log-file=<value>` is a shell word:
this needs no acceptance of the options, since the rejected values never reach the list. -/
theorem asRsyncCommandOptions_words (c : CommandOptions) :
    ∀ a ∈ c.asRsyncCommandOptions.1, isShellWord a = true ∨ a = "--log-file=" ++ c.logFile := by
  intro a ha
  simp only [CommandOptions.asRsyncCommandOptions, List.mem_append, or_assoc] at ha
  rcases ha with ha | ha | ha | ha | ha | ha
  · left
    simp only [CommandOptions.flagOptions, List.mem_append, List.mem_ite_nil_right,
      List.mem_singleton, or_assoc] at ha
    rcases ha with ⟨-, rfl⟩ | ⟨-, rfl⟩ | ⟨-, rfl⟩ | ⟨-, rfl⟩ | ⟨-, rfl⟩ | ⟨-, rfl⟩ | ⟨-, rfl⟩ |
      ⟨-, rfl⟩ | ⟨-, rfl⟩ | ⟨-, rfl⟩ | ⟨-, rfl⟩ <;> decide
  · left
    unfold CommandOptions.bwLimitOption at ha
    split at ha
    · cases ha
    · split at ha
      · rw [List.mem_singleton.mp ha]
        refine isShellWord_append (by decide) ?_
        exact List.all_eq_true.mpr fun ch hch => by
          simp [isShellWordChar, List.all_eq_true.mp (toString_pos_all ‹_›) ch hch]
      · cases ha
  · left
    simp only [List.mem_ite_nil_right, List.mem_singleton] at ha
    rw [ha.2]; decide
  · right
    simp only [List.mem_ite_nil_right, List.mem_singleton] at ha
    exact ha.2
  · left
    unfold CommandOptions.infoOption at ha
    split at ha
    · cases ha
    · rw [List.mem_singleton.mp ha]
      refine isShellWord_append (by decide) (intercalate_all (by decide) fun x hx => ?_)
      exact infoOptionMatches_all (List.of_mem_filter hx)
  · left
    unfold CommandOptions.extraOptions at ha
    split at ha
    · cases ha
    · exact isShellWord_of_extraOptionMatches (List.of_mem_filter ha)

/-! ### The script -/

theorem toDigitsCore_ne_nil : ∀ (fuel n : Nat) (ds : List Char), ds ≠ [] →
    Nat.toDigitsCore 10 fuel n ds ≠ []
  | 0, _, _, h => h
  | fuel + 1, n, ds, _ => by
    simp only [Nat.toDigitsCore]
    split
    · exact List.cons_ne_nil _ _
    · exact toDigitsCore_ne_nil fuel _ _ (List.cons_ne_nil _ _)

theorem isShellWord_toString_nat (n : Nat) : isShellWord (toString n) = true := by
  have hd := toDigitsCore_all (n + 1) n [] rfl
  have hne : Nat.toDigitsCore 10 (n + 1) n [] ≠ [] := by
    simp only [Nat.toDigitsCore]
    split
    · exact List.cons_ne_nil _ _
    · exact toDigitsCore_ne_nil _ _ _ (List.cons_ne_nil _ _)
  simp only [isShellWord, Bool.and_eq_true, Bool.not_eq_true', List.isEmpty_eq_false, List.all_eq_true]
  exact ⟨hne, fun ch hch => by simp [isShellWordChar, List.all_eq_true.mp hd ch hch]⟩

theorem isShellWord_toString_int (n : Int) : isShellWord (toString n) = true := by
  cases n with
  | ofNat m => exact isShellWord_toString_nat m
  | negSucc m =>
    show isShellWord ("-" ++ toString (m + 1)) = true
    have h := isShellWord_toString_nat (m + 1)
    simp only [isShellWord, Bool.and_eq_true, Bool.not_eq_true', List.isEmpty_eq_false] at h ⊢
    simp [List.all_append, h.2, isShellWordChar]

theorem intercalate_go_append (sep : String) : ∀ (xs : List String) (acc x : String),
    String.intercalate.go acc sep (xs ++ [x]) = String.intercalate.go acc sep xs ++ sep ++ x
  | [], _, _ => rfl
  | y :: xs, acc, x => intercalate_go_append sep xs (acc ++ sep ++ y) x

theorem intercalate_append_singleton (sep x : String) {xs : List String} (hxs : xs ≠ []) :
    sep.intercalate (xs ++ [x]) = sep.intercalate xs ++ sep ++ x := by
  obtain ⟨y, xs, rfl⟩ := List.exists_cons_of_ne_nil hxs
  exact intercalate_go_append sep xs y x

/-- The command line, word by word: the code's last piece, the URL with `--port` and the
port, is three words. -/
theorem rsyncCommandLine_eq_words (opts : List String) (username : String) (t : Transport)
    (pvc : PVC) :
    rsyncCommandLine opts username t pvc =
      " ".intercalate (["/usr/bin/rsync"] ++ opts ++
        [getMountPathForPVC pvc ++ "/",
         "rsync://" ++ username ++ "@" ++ t.hostname ++ "/" ++ pvc.labelSafeName,
         "--port", toString t.listenPort]) := by
  have hl : ∀ a b c d : String, ["/usr/bin/rsync"] ++ opts ++ [a, b, c, d] =
      (["/usr/bin/rsync"] ++ opts ++ [a] ++ [b] ++ [c]) ++ [d] := by simp
  unfold rsyncCommandLine
  rw [hl]
  simp (disch := simp) only [intercalate_append_singleton, String.append_assoc]
  rfl

theorem isShellWord_of_all {s : String} (hne : s.data ≠ []) (h : s.data.all isShellWordChar = true) :
    isShellWord s = true := by
  simp [isShellWord, hne, h]

/-- **What the script runs.** The command line of a client pod is `/usr/bin/rsync` and these
words, joined by blanks: the options of `AsRsyncCommandOptions`, the mount path, the URL of the
module, `--port` and the port. Let the PVC's namespace and label-safe name be made of shell
word characters, as Kubernetes namespace names and label values are. Then every word is a
shell word but two: the `--log-file` option, which carries the log file as given, and the URL,
which is one when the username and the hostname are. -/
theorem rsyncCommandLine_shellWords (c : CommandOptions) (username : String) (t : Transport)
    (pvc : PVC) (hns : pvc.ns.data.all isShellWordChar = true)
    (hlsn : pvc.labelSafeName.data.all isShellWordChar = true) :
    rsyncCommandLine c.asRsyncCommandOptions.1 username t pvc =
      " ".intercalate (["/usr/bin/rsync"] ++ c.asRsyncCommandOptions.1 ++
        [getMountPathForPVC pvc ++ "/",
         "rsync://" ++ username ++ "@" ++ t.hostname ++ "/" ++ pvc.labelSafeName,
         "--port", toString t.listenPort]) ∧
    (∀ a ∈ c.asRsyncCommandOptions.1, isShellWord a = true ∨ a = "--log-file=" ++ c.logFile) ∧
    (c.logFile ≠ "" → "--log-file=" ++ c.logFile ∈ c.asRsyncCommandOptions.1) ∧
    isShellWord (getMountPathForPVC pvc ++ "/") = true ∧
    isShellWord (toString t.listenPort) = true ∧
    (username.data.all isShellWordChar = true → t.hostname.data.all isShellWordChar = true →
      isShellWord ("rsync://" ++ username ++ "@" ++ t.hostname ++ "/" ++ pvc.labelSafeName) = true) := by
  refine ⟨rsyncCommandLine_eq_words _ _ _ _, asRsyncCommandOptions_words c, fun h => by
    simp [CommandOptions.asRsyncCommandOptions, h], ?mount, isShellWord_toString_int _,
    fun hu hh => ?url⟩
  case mount =>
    refine isShellWord_of_all (by simp [getMountPathForPVC]) ?_
    simp only [getMountPathForPVC, String.data_append, List.all_append, hns, hlsn, Bool.and_true,
      Bool.true_and]
    decide
  case url =>
    refine isShellWord_of_all (by simp) ?_
    simp only [String.data_append, List.all_append, hu, hh, hlsn, Bool.and_true, Bool.true_and]
    decide

/-- The PVC `data` of namespace `src`: its mount path and the URL of its module are shell
words. -/
theorem rsyncCommandLine_src_data :
    let pvc : PVC := ⟨"src", "data", "data"⟩
    let t := Null.newTransport "backup.example" 2222
    pvc.ns.data.all isShellWordChar = true ∧ pvc.labelSafeName.data.all isShellWordChar = true ∧
    isShellWord (getMountPathForPVC pvc ++ "/") = true ∧
    isShellWord ("rsync://" ++ "root" ++ "@" ++ t.hostname ++ "/" ++ pvc.labelSafeName) = true := by
  intro pvc t
  have h := rsyncCommandLine_shellWords CommandOptions.empty "root" t pvc (by decide) (by decide)
  exact ⟨by decide, by decide, h.2.2.2.1, h.2.2.2.2.2 (by decide) (by decide)⟩

/-- A log file path with a command separator passes `AsRsyncCommandOptions` with no error,
and the client's script runs it as a second command. -/
theorem logFile_reaches_script :
    let options : TransferOptions :=
      { TransferOptions.empty with logFile := "/tmp/rsync.log;reboot", username := "root" }
    let t := Null.newTransport "backup.example" 2222
    let pvc : PVC := ⟨"src", "data", "data"⟩
    options.asRsyncCommandOptions = (["--log-file=/tmp/rsync.log;reboot"], none) ∧
    isShellWord "--log-file=/tmp/rsync.log;reboot" = false ∧
    getRsyncCommand ["--log-file=/tmp/rsync.log;reboot"] options t pvc =
      ["/bin/bash", "-c", "/usr/bin/rsync --log-file=/tmp/rsync.log;reboot /mnt/src/data/ " ++
        "rsync://root@backup.example/data --port 2222"] :=
  ⟨rfl, by decide, rfl⟩

end Rsync

end VolSync
