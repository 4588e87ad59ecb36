import DomainAtlas.Proofs.Discovery.Tree
import DomainAtlas.Proofs.FileSystem
import Mathlib.Data.List.Infix
import Mathlib.Logic.ExistsUnique
import Mathlib.Logic.Relation

/-!
# Paths without links

The normal form of a written absolute path is what is left of its components when empty ones and single
dots are dropped, and two dots together with the name before them, or alone where nothing is before them:
`Path.Shortens` drops in one place, in any order. `Path.lexical` does it with a stack of names. A step
does not change what the stack ends with, and the stack is itself a way of dropping, so nothing depends
on the order.

A file system reads a path as it is written as long as no component is a link (`FileSystem.Unlinked`).

Results:
* `Path.normalForm_iff`, `Path.existsUnique_normalForm`: the names on the stack are the one normal form.
* `FileSystem.realpath_of_unlinked`, `FileSystem.place_of_unlinked`: the absolute path without links has
  the names of the normal form, and where the path leads, it leads there.
-/
namespace DomainAtlas

namespace Path

/-! ## Normal forms -/

/-- Components of an absolute path with something dropped that makes no difference without links. -/
inductive Shortens : List String → List String → Prop
  | slash (a b : List String) : Shortens (a ++ "" :: b) (a ++ b)
  | dot (a b : List String) : Shortens (a ++ "." :: b) (a ++ b)
  | up (a b : List String) {name : String} (h : EntryName name) :
      Shortens (a ++ name :: ".." :: b) (a ++ b)
  | top (b : List String) : Shortens (".." :: b) b

/-- The normal form of a written absolute path: names only. -/
def NormalForm (s : String) (names : List String) : Prop :=
  Relation.ReflTransGen Shortens (Text.split '/' s) names ∧ ∀ n ∈ names, EntryName n

theorem isComponent_of_name {name : String} (h : EntryName name) : isComponent name = true := by
  simp [isComponent, h.ne_empty, h.ne_dot]

theorem push_of_name {name : String} (h : EntryName name) (stack : List String) :
    push stack name = name :: stack := if_neg h.ne_dots

@[simp] theorem push_up (stack : List String) : push stack ".." = stack.tail := if_pos rfl

/-- Dropping does not change what the stack ends with. -/
theorem Shortens.lexical_eq {parts parts' : List String} (h : Shortens parts parts') :
    lexical (parts.filter isComponent) = lexical (parts'.filter isComponent) := by
  cases h with
  | slash a b => rw [List.filter_append, List.filter_append]; rfl
  | dot a b => rw [List.filter_append, List.filter_append]; rfl
  | up a b h =>
    have dots : isComponent ".." = true := by decide
    rw [List.filter_append, List.filter_append, List.filter_cons_of_pos (isComponent_of_name h),
      List.filter_cons_of_pos dots, lexical, lexical, List.foldl_append, List.foldl_append,
      List.foldl_cons, List.foldl_cons, push_of_name h, push_up, List.tail_cons]
  | top b => rfl

theorem lexical_eq_of_shortens {parts parts' : List String}
    (h : Relation.ReflTransGen Shortens parts parts') :
    lexical (parts.filter isComponent) = lexical (parts'.filter isComponent) := by
  induction h with
  | refl => rfl
  | tail _ step ih => exact ih.trans step.lexical_eq

/-- Names are their own normal form. -/
theorem lexical_of_names {names : List String} (h : ∀ n ∈ names, EntryName n) :
    lexical (names.filter isComponent) = names := by
  have pushed (stack : List String) : names.foldl push stack = names.reverse ++ stack := by
    induction names generalizing stack with
    | nil => rfl
    | cons name names ih =>
      rw [List.forall_mem_cons] at h
      rw [List.foldl_cons, push_of_name h.1, ih h.2, List.reverse_cons, List.append_assoc]
      rfl
  rw [List.filter_eq_self.2 fun n hn => isComponent_of_name (h n hn), lexical, pushed,
    List.append_nil, List.reverse_reverse]

/-- What a written component does to the stack: some say nothing. -/
def pushWritten (stack : List String) (part : String) : List String :=
  if isComponent part then push stack part else stack

/-- The stack drops only what may be dropped, and there are only names on it. -/
theorem shortens_pushWritten {part : String} (noSlash : '/' ∉ part.toList) {stack : List String}
    (names : ∀ n ∈ stack, EntryName n) (todo : List String) :
    Relation.ReflTransGen Shortens (stack.reverse ++ part :: todo)
        ((pushWritten stack part).reverse ++ todo) ∧
      ∀ n ∈ pushWritten stack part, EntryName n := by
  by_cases empty : part = ""
  · subst empty
    exact ⟨.single (.slash _ _), names⟩
  by_cases dot : part = "."
  · subst dot
    exact ⟨.single (.dot _ _), names⟩
  rw [pushWritten, if_pos (by simp [isComponent, empty, dot])]
  by_cases dots : part = ".."
  · subst dots
    rw [push_up]
    cases stack with
    | nil => exact ⟨.single (.top todo), names⟩
    | cons name stack =>
      rw [List.forall_mem_cons] at names
      rw [List.reverse_cons, List.append_assoc]
      exact ⟨.single (.up _ _ names.1), names.2⟩
  · have name : EntryName part := ⟨empty, noSlash, dot, dots⟩
    rw [push_of_name name, List.reverse_cons, List.append_assoc]
    exact ⟨.refl, List.forall_mem_cons.2 ⟨name, names⟩⟩

theorem shortens_foldl_pushWritten {todo stack : List String} (parts : ∀ c ∈ todo, '/' ∉ c.toList)
    (names : ∀ n ∈ stack, EntryName n) :
    Relation.ReflTransGen Shortens (stack.reverse ++ todo) (todo.foldl pushWritten stack).reverse ∧
      ∀ n ∈ todo.foldl pushWritten stack, EntryName n := by
  -- What is on the stack stands before what is still to be read.
  induction todo generalizing stack with
  | nil => exact ⟨by rw [List.append_nil]; exact .refl, names⟩
  | cons part todo ih =>
    rw [List.forall_mem_cons] at parts
    have step := shortens_pushWritten parts.1 names todo
    have run := ih parts.2 step.2
    exact ⟨step.1.trans run.1, run.2⟩

theorem parts_parse (s : String) : (parse s).parts = (Text.split '/' s).filter isComponent := rfl

theorem lexical_parts_parse (s : String) :
    lexical (parse s).parts = ((Text.split '/' s).foldl pushWritten []).reverse := by
  rw [parts_parse, lexical, List.foldl_filter]
  rfl

/-- The names that the stack ends with are a normal form. -/
theorem normalForm_lexical (s : String) : NormalForm s (lexical (parse s).parts) := by
  have noSlash : ∀ c ∈ Text.split '/' s, '/' ∉ c.toList := by
    intro c hc
    obtain ⟨part, hp, rfl⟩ := List.mem_map.1 hc
    rw [String.toList_ofList]
    exact Text.notMem_of_mem_splitChars hp
  have empty : ∀ n ∈ ([] : List String), EntryName n := by simp
  obtain ⟨steps, names⟩ := shortens_foldl_pushWritten noSlash empty
  rw [lexical_parts_parse]
  exact ⟨steps, fun n hn => names n (List.mem_reverse.1 hn)⟩

/-- A written path has one normal form, the names that the stack ends with. -/
theorem normalForm_iff {s : String} {names : List String} :
    NormalForm s names ↔ names = lexical (parse s).parts := by
  refine ⟨fun ⟨steps, proper⟩ => ?_, fun h => h ▸ normalForm_lexical s⟩
  rw [parts_parse, lexical_eq_of_shortens steps, lexical_of_names proper]

example : NormalForm "//srv/./app/x/../../../../lib/" ["lib"] := normalForm_iff.2 (by decide +kernel)

theorem existsUnique_normalForm (s : String) : ∃! names, NormalForm s names :=
  ⟨_, normalForm_lexical s, fun _ => normalForm_iff.1⟩

/-- Two written paths have the same normal form. -/
def SameNormalForm (s t : String) : Prop := ∃ names, NormalForm s names ∧ NormalForm t names

theorem sameNormalForm_iff {s t : String} :
    SameNormalForm s t ↔ lexical (parse s).parts = lexical (parse t).parts := by
  simp only [SameNormalForm, normalForm_iff]
  exact ⟨fun ⟨_, h, h'⟩ => h.symm.trans h', fun h => ⟨_, rfl, h⟩⟩

end Path

namespace FileSystem

/-! ## Places -/

/-- No component of an absolute path is a link, where it stands when those before it are read as they
are written. -/
def Unlinked (fs : FileSystem) (p : Path) : Prop :=
  ∀ front, front <+: p.parts → ∀ target, fs.at? (Path.lexical front) ≠ some (.link target)

/-- Whether a link stands at a place. -/
def hasLink (fs : FileSystem) (key : List String) : Bool :=
  match fs.at? key with
  | some (.link _) => true
  | _ => false

theorem hasLink_eq_false_iff {fs : FileSystem} {key : List String} :
    fs.hasLink key = false ↔ ∀ target, fs.at? key ≠ some (.link target) := by
  rw [hasLink]
  split
  · next target link => simp [link]
  · next other => simpa using other

instance (fs : FileSystem) (p : Path) : Decidable (fs.Unlinked p) :=
  decidable_of_iff (∀ front ∈ p.parts.inits, fs.hasLink (Path.lexical front) = false) <| by
    simp only [List.mem_inits, hasLink_eq_false_iff]
    rfl

section Steps

variable {fs : FileSystem} {todo stack : List String}

/-- No component that is to come is a link, seen from a place. -/
def UnlinkedFrom (fs : FileSystem) (stack todo : List String) : Prop :=
  ∀ front, front <+: todo → ∀ target,
    fs.at? (front.foldl Path.push stack).reverse ≠ some (.link target)

theorem UnlinkedFrom.next {part : String} (h : fs.UnlinkedFrom stack (part :: todo)) :
    fs.UnlinkedFrom (Path.push stack part) todo :=
  fun front before => h (part :: front) (List.cons_prefix_cons.2 ⟨rfl, before⟩)

theorem UnlinkedFrom.here (h : fs.UnlinkedFrom stack todo) (target : String) :
    fs.at? stack.reverse ≠ some (.link target) :=
  h [] List.nil_prefix target

/-- A component that is no link is taken as it is written. -/
theorem realpathFrom_real (cwd : List String) (closed : List Path) {here : List String}
    {part : String} (name : part ≠ "..")
    (real : ∀ target, fs.at? (here ++ [part]) ≠ some (.link target)) :
    fs.realpathFrom cwd closed ⟨"/", here⟩ (part :: todo) =
      fs.realpathFrom cwd closed ⟨"/", here ++ [part]⟩ todo := by
  rw [realpathFrom.eq_def]
  refine (if_neg name).trans ?_
  dsimp only
  split
  · next target link => exact absurd link (real target)
  · rfl

theorem realpathFrom_of_unlinked (h : fs.UnlinkedFrom stack todo) (cwd : List String)
    (closed : List Path) : fs.realpathFrom cwd closed ⟨"/", stack.reverse⟩ todo =
      .ok ⟨"/", (todo.foldl Path.push stack).reverse⟩ := by
  induction todo generalizing stack with
  | nil => rw [realpathFrom.eq_def]; rfl
  | cons part todo ih =>
    rw [List.foldl_cons, ← ih h.next]
    by_cases up : part = ".."
    · have ascended : Path.ascend cwd ⟨"/", stack.reverse⟩ = ⟨"/", stack.tail.reverse⟩ := by
        rw [← List.dropLast_reverse]
        rfl
      rw [realpathFrom.eq_def]
      simp only [if_pos up]
      rw [up, Path.push_up, ascended]
    · have pushed : (Path.push stack part).reverse = stack.reverse ++ [part] := by
        rw [Path.push, if_neg up, List.reverse_cons]
      have real := h.next.here
      rw [pushed] at real ⊢
      exact realpathFrom_real cwd closed up real

theorem resolveFrom_of_unlinked (h : fs.UnlinkedFrom stack todo) {follow : Bool} {links : Nat}
    {place : List String} {n : Option FileNode}
    (found : fs.resolveFrom follow links stack.reverse todo = .ok (place, n)) :
    place = (todo.foldl Path.push stack).reverse := by
  induction todo generalizing stack with
  | nil =>
    rw [resolveFrom] at found
    exact (Prod.mk.inj (Except.ok.inj found)).1.symm
  | cons part todo ih =>
    rw [List.foldl_cons]
    by_cases up : part = ".."
    · refine ih h.next ?_
      rw [resolveFrom, if_pos up] at found
      rwa [up, Path.push_up, ← List.dropLast_reverse]
    have pushed : (Path.push stack part).reverse = stack.reverse ++ [part] := by
      rw [Path.push, if_neg up, List.reverse_cons]
    by_cases long : maxName < part.utf8ByteSize
    · rw [resolveFrom, if_neg up, if_pos long] at found
      cases found
    rcases here : fs.at? (stack.reverse ++ [part]) with _ | ⟨⟨bytes⟩ | ⟨target⟩ | _⟩
    · rw [resolveFrom_none fs follow links _ up long todo here] at found
      split at found
      · next last => rw [last, List.foldl_nil, pushed, (Prod.mk.inj (Except.ok.inj found)).1]
      · cases found
    · rw [resolveFrom_file fs follow links _ up long todo here] at found
      split at found
      · next last => rw [last, List.foldl_nil, pushed, (Prod.mk.inj (Except.ok.inj found)).1]
      · cases found
    · exact absurd (pushed ▸ here) (h.next.here target)
    · rw [resolveFrom_dir fs follow links _ up long todo here, ← pushed] at found
      exact ih h.next found

end Steps

section Paths

variable {fs : FileSystem} {p : Path} (absolute : p.isAbsolute = true) (h : fs.Unlinked p)
  (cwd : List String)

include absolute h

/-- The absolute path of a path without links is read off the path. -/
theorem realpath_of_unlinked : fs.realpath cwd p = ⟨"/", Path.lexical p.parts⟩ := by
  have start : fs.UnlinkedFrom [] p.parts := h
  have place := realpathFrom_of_unlinked start cwd (fs.spellings cwd)
  rw [List.reverse_nil] at place
  rw [realpath, if_pos absolute, place]
  rfl

/-- Where a path without links leads, if it leads anywhere. -/
theorem place_of_unlinked {follow : Bool} {place : List String} {n : Option FileNode}
    (found : fs.resolve cwd follow p = .ok (place, n)) : place = Path.lexical p.parts := by
  have start : fs.UnlinkedFrom [] p.parts := h
  rw [resolve, if_pos absolute] at found
  exact resolveFrom_of_unlinked start found

end Paths

end FileSystem

end DomainAtlas
