/-
  LuauLayout.Cli.Store

  Named files, as a program in one working directory sees them.

  A place is a list of names, the last one first, counted from the working
  directory; the name `..` stands for the directory above, and `/` for the top.
  Directories are the working directory, all directories above it, and whatever
  has a file beneath it. A path is followed name by name, and everything but its
  last name has to be a directory. Names and paths have a greatest length.

    * `read`  — the text of a file.
    * `write` — makes or replaces a file.
    * `read_of_write` — what has been written is there to be read.
-/

import LuauLayout.Failure
import LuauLayout.Text.Split

namespace LuauLayout
namespace Cli

/-- The names from a place to the working directory. -/
abbrev Place := List String

/-- Files with their contents; `none` is a file that holds no text. -/
structure Store where
  files : List (Place × Option String)
  deriving DecidableEq, Repr, Inhabited

namespace Store

/-- No files. -/
def empty : Store := ⟨[]⟩

/-- The contents of the file at a place. -/
def contents? (s : Store) (place : Place) : Option (Option String) := s.files.lookup place

/-- Whether a place is a directory. -/
def isDirectory (s : Store) (place : Place) : Bool :=
  place.all (· == "..") || place == ["/"] || s.files.any fun (f, _) => f != place && place.isSuffixOf f

/-- The place above. -/
def above : Place → Place
  | [] => [".."]
  | name :: rest =>
    if name = ".." then ".." :: name :: rest
    else if name = "/" then name :: rest
    else rest

/-- The place that a name leads to from a directory. -/
def enter (place : Place) (name : String) : Place :=
  if name = "" ∨ name = "." then place
  else if name = ".." then above place
  else name :: place

/-- Where the names in a path start: at the top, if there is nothing in front of the first slash. -/
def origin : List String → Place
  | "" :: _ => ["/"]
  | _ => []

/-- The most bytes that a name may have. -/
def nameLimit : Nat := 255

/-- The most bytes that a path may have. -/
def pathLimit : Nat := 4095

/-- Follows names from a place on. -/
def follow (s : Store) (place : Place) : List String → Except FileFault Place
  | [] => .ok place
  | name :: rest =>
    if !s.isDirectory place then
      .error (if (s.contents? place).isSome then .notDirectory else .notFound)
    else if nameLimit < name.utf8ByteSize then .error .nameTooLong
    else s.follow (enter place name) rest

/-- The names in a path. -/
def names (path : String) : List String := (Text.split '/' path.toList).map String.ofList

/-- The names in a path that is not too long. -/
def names? (path : String) : Except FileFault (List String) :=
  if pathLimit < path.utf8ByteSize then .error .nameTooLong else .ok (names path)

/-- The place that the names in a path lead to. An empty path leads nowhere. -/
def locate (s : Store) (all : List String) : Except FileFault Place :=
  if all = [""] then .error .notFound else s.follow (origin all) all

/-- The text of a file. -/
def read (s : Store) (path : String) : Except FileFault String := do
  let place ← s.locate (← names? path)
  match s.contents? place with
  | some (some text) => .ok text
  | some none => .error .notText
  | none => .error (if s.isDirectory place then .isDirectory else .notFound)

/-- Binds a place to contents. -/
def put (s : Store) (place : Place) (contents : Option String) : Store :=
  ⟨(place, contents) :: s.files.filter fun (f, _) => f != place⟩

/-- The names up to the directory that a path with a slash at its end lies in. -/
def directoryNames? (all : List String) : Option (List String) :=
  match all.reverse with
  | "" :: last :: rest => some (((last :: rest).dropWhile (· == "")).tail.reverse ++ ["."])
  | _ => none

/-- Makes or replaces a file. A path with a slash at its end names a directory, whether there is
    one or not. -/
def write (s : Store) (path text : String) : Except FileFault Store := do
  let all ← names? path
  match directoryNames? all with
  | some parents =>
    -- what is wrong on the way there comes before what is wrong with the path
    let _ ← s.locate parents
    .error .isDirectory
  | none =>
    let place ← s.locate all
    if s.isDirectory place then .error .isDirectory else .ok (s.put place (some text))

/-- The store with these files, and with the directories on the way to them. -/
def ofList (files : List (String × Option String)) : Store :=
  files.foldl (fun s (path, contents) =>
    let all := names path
    s.put (all.foldl enter (origin all)) contents) empty

/-- What was put at a place is there. -/
theorem contents?_put_self (s : Store) (place : Place) (c : Option String) :
    (s.put place c).contents? place = some c := by
  simp [put, contents?]

/-- Nothing changes elsewhere. -/
theorem contents?_put_of_ne (s : Store) {place other : Place} (h : other ≠ place)
    (c : Option String) : (s.put place c).contents? other = s.contents? other := by
  have hb : (other == place) = false := by simpa using h
  simp only [put, contents?, List.lookup_cons, hb]
  induction s.files with
  | nil => rfl
  | cons e rest ih =>
    obtain ⟨f, v⟩ := e
    by_cases he : f = place
    · subst he
      simp [List.lookup_cons, hb, ih]
    · simp [he, List.lookup_cons, ih]

/-- A new file makes directories and unmakes none. -/
theorem isDirectory_put (s : Store) (place : Place) (c : Option String) {other : Place}
    (h : s.isDirectory other = true) : (s.put place c).isDirectory other = true := by
  simp only [isDirectory, Bool.or_eq_true, List.any_eq_true] at h ⊢
  refine h.imp_right ?_
  rintro ⟨⟨f, v⟩, hf, hunder⟩
  by_cases he : f = place
  · subst he
    exact ⟨(f, c), List.mem_cons_self, hunder⟩
  · have hkept : (f, v) ∈ s.files.filter fun (g, _) => g != place :=
      List.mem_filter.mpr ⟨hf, by simpa using he⟩
    exact ⟨(f, v), List.mem_cons_of_mem _ hkept, hunder⟩

/-- Names that lead to a place still do so after a file has been put anywhere. -/
theorem follow_put (s : Store) (place : Place) (c : Option String) {all : List String}
    {start goal : Place} (h : s.follow start all = .ok goal) :
    (s.put place c).follow start all = .ok goal := by
  induction all generalizing start with
  | nil => exact h
  | cons name rest ih =>
    rw [follow] at h ⊢
    split at h
    · cases h
    next hdirectory =>
      -- the way goes through directories only, and those stay directories
      have hstart : (s.put place c).isDirectory start = true :=
        s.isDirectory_put place c (by simpa using hdirectory)
      simp only [hstart, Bool.not_true, Bool.false_eq_true, if_false]
      split at h
      · cases h
      next hname =>
        rw [if_neg hname]
        exact ih h

/-- The same for all names of a path. -/
theorem locate_put (s : Store) (place : Place) (c : Option String) {all : List String}
    {goal : Place} (h : s.locate all = .ok goal) : (s.put place c).locate all = .ok goal := by
  rw [locate] at h ⊢
  split at h
  · cases h
  next hall =>
    rw [if_neg hall]
    exact s.follow_put place c h

/-- A file is written only at the place that the names of its path lead to, which is no directory. -/
theorem exists_of_write {s s' : Store} {path text : String} (h : s.write path text = .ok s') :
    ∃ all place, names? path = .ok all ∧ s.locate all = .ok place ∧ s.isDirectory place = false ∧
      s' = s.put place (some text) := by
  rw [write] at h
  cases hall : names? path with
  | error fault =>
    rw [hall] at h
    cases h
  | ok all =>
    simp only [hall, bind, Except.bind] at h
    split at h
    · -- the path names a directory, and whether there is one or not it cannot be written
      split at h
      · cases h
      · cases h
    · cases hplace : s.locate all with
      | error fault =>
        rw [hplace] at h
        cases h
      | ok place =>
        simp only [hplace] at h
        split at h
        · cases h
        next hdirectory =>
          cases h
          exact ⟨all, place, rfl, hplace, by simpa using hdirectory, rfl⟩

/-- What has been written to a path is read there. -/
theorem read_of_write {s s' : Store} {path text : String} (h : s.write path text = .ok s') :
    s'.read path = .ok text := by
  obtain ⟨all, place, hall, hplace, -, rfl⟩ := exists_of_write h
  have hthere : (s.put place (some text)).locate all = .ok place := s.locate_put place _ hplace
  simp only [read, hall, hthere, bind, Except.bind, contents?_put_self]

end Store
end Cli
end LuauLayout
