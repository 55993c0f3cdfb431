import IngressPlane.Shell.Filters

/-!
Programs that work on the names of files, or that make, copy, compare and remove files.
-/
namespace IngressPlane.Shell

open Text

/-! ## Names -/

def withoutSlashes (path : String) : List Char :=
  match dropTrailing (· = '/') path.toList with
  | [] => if path = "" then [] else ['/']
  | cs => cs

def lastName (path : String) : String :=
  let cs := withoutSlashes path
  if cs = ['/'] then "/" else (split '/' (String.ofList cs)).getLastD ""

def withoutEnding (ending name : String) : String :=
  if ending ≠ "" && ending ≠ name && hasSuffix ending name then
    String.ofList (name.toList.take (name.length - ending.length))
  else name

def basename : Program :=
  withOptions "basename" [
    { letter := some 'a', long := ["multiple"] }, { letter := some 'z', long := ["zero"] },
    { letter := some 's', long := ["suffix"], value := .always }] fun g m =>
  let names (ending : String) (paths : List String) : Machine :=
    (m.say (unlines (paths.map fun path => withoutEnding ending (lastName path)))).withStatus 0
  match g.operands, g.has "a" || g.has "s" with
  | [], _ => misuse "basename" m "missing operand"
  | paths, true => names ((g.last? "s").getD "") paths
  | [path], _ => names "" [path]
  | [path, ending], _ => names ending [path]
  | _ :: _ :: extra :: _, _ => misuse "basename" m ("extra operand " ++ inQuotes extra)

def directoryOf (path : String) : String :=
  let cs := withoutSlashes path
  if cs = ['/'] then "/"
  else if !cs.contains '/' then "."
  else
    match dropTrailing (· = '/') (dropTrailing (· ≠ '/') cs) with
    | [] => "/"
    | above => String.ofList above

def dirname : Program := withOptions "dirname" [{ letter := some 'z' }] fun g m =>
  if g.operands.isEmpty then misuse "dirname" m "missing operand"
  else (m.say (unlines (g.operands.map directoryOf))).withStatus 0

/-! ## Files -/

def Machine.store? (m : Machine) (path contents : String) : Option Machine :=
  if m.hasDirectory path || !m.hasDirectory (m.parent path) then none
  else if m.absolute path = "/dev/null" then some m
  else some { m with files := m.files.insert (m.absolute path) contents }

def eachPath (program : String) (m : Machine) (paths : List String)
    (step : Machine → String → Except String Machine) : Machine :=
  paths.foldl (fun m path =>
    match step m path with
    | .ok m => m
    | .error complaint => (m.report program complaint).withStatus 1) (m.withStatus 0)

def remove : Program := withOptions "rm" (plainSwitches "fiIrRdv") fun g m =>
  if g.operands.isEmpty then
    if g.has "f" then m.withStatus 0 else misuse "rm" m "missing operand"
  else
    eachPath "rm" m g.operands fun m path =>
      if m.files.contains (m.absolute path) then
        .ok { m with files := m.files.erase (m.absolute path) }
      else if m.hasDirectory path then
        .error ("cannot remove " ++ shellQuoted path ++ ": Is a directory")
      else if g.has "f" then .ok m
      else .error ("cannot remove " ++ shellQuoted path ++ ": No such file or directory")

def touch : Program := withOptions "touch" (plainSwitches "acm") fun g m =>
  if g.operands.isEmpty then misuse "touch" m "missing file operand"
  else
    eachPath "touch" m g.operands fun m path =>
      if m.exists? path || g.has "c" then .ok m
      else
        match m.store? path "" with
        | some m => .ok m
        | none => .error ("cannot touch " ++ shellQuoted path ++ ": No such file or directory")

def copyTo (program : String) (moves : Bool) : Program :=
  withOptions program (plainSwitches "aflnprRuvT") fun g m =>
  match g.operands with
  | [] => misuse program m "missing file operand"
  | [path] => misuse program m ("missing destination file operand after " ++ shellQuoted path)
  | path :: place :: more =>
    let target := ((place :: more).getLast?).getD place
    eachPath program m ((path :: place :: more).dropLast) fun m path =>
      match m.contents? path with
      | none => .error ("cannot stat " ++ shellQuoted path ++ ": No such file or directory")
      | some contents =>
        let goal := if m.hasDirectory target then target ++ "/" ++ lastName path else target
        match m.store? goal contents with
        | none => .error ("cannot create regular file " ++ shellQuoted goal ++ ": No such file or directory")
        | some copied =>
          .ok (if moves then { copied with files := copied.files.erase (m.absolute path) } else copied)

def tee : Program := withOptions "tee" [{ letter := some 'a', long := ["append"] }, { letter := some 'i' }]
  fun g m =>
  let contents := m.unread 0
  eachPath "tee" ((m.consume 0).say contents) g.operands fun m path =>
    let before := if g.has "a" then (m.contents? path).getD "" else ""
    match m.store? path (before ++ contents) with
    | some m => .ok m
    | none =>
      .error (shellWord path ++ ": " ++ if m.hasDirectory path then "Is a directory" else "No such file or directory")

def list : Program := withOptions "ls" (plainSwitches "1aAdFhlrStu") fun g m =>
  let paths := g.operands.mergeSort (· ≤ ·)
  let (found, missing) := paths.partition m.exists?
  let m := missing.foldl (fun m path =>
    m.report "ls" ("cannot access " ++ shellQuoted path ++ ": No such file or directory")) m
  (m.say (unlines (found.filter fun path => g.has "d" || !m.hasDirectory path))).withStatus
    (if missing.isEmpty then 0 else 2)

def difference? (a b : List Char) (place line : Nat) : Option (Nat × Nat × Bool) :=
  match a, b with
  | [], [] => none
  | c :: as, d :: bs =>
    if c = d then difference? as bs (place + 1) (if c = '\n' then line + 1 else line)
    else some (place, line, false)
  | _, _ => some (place, line, true)

def compare : Program :=
  withOptions "cmp" [{ letter := some 's', long := ["quiet", "silent"] }] fun g m =>
  match g.operands with
  | first :: others =>
    let second := others.headD "-"
    match m.load first with
    | (.error trouble, m) =>
      (if g.has "s" then m else m.report "cmp" (trouble.about first)).withStatus 2
    | (.ok a, m) =>
      match m.load second with
      | (.error trouble, m) =>
        (if g.has "s" then m else m.report "cmp" (trouble.about second)).withStatus 2
      | (.ok b, m) =>
        match difference? a.toList b.toList 1 1 with
        | none => m.withStatus 0
        | some (place, line, ended) =>
          let shorter := if a.length < b.length then first else second
          let m := if g.has "s" then m
            else if !ended then
              m.say (first ++ " " ++ second ++ " differ: char " ++ place.repr ++ ", line " ++ line.repr
                ++ "\n")
            else if place = 1 then m.report "cmp" ("EOF on " ++ shorter ++ " which is empty")
            else m.report "cmp" ("EOF on " ++ shorter ++ " after byte " ++ (place - 1).repr ++ ", "
              ++ (if (if a.length < b.length then a else b).endsWith "\n" then
                  "line " ++ (line - 1).repr
                else "in line " ++ line.repr))
          m.withStatus 1
  | [] =>
    ((m.report "cmp" "missing operand after 'cmp'").report "cmp"
      "Try 'cmp --help' for more information.").withStatus 2

end IngressPlane.Shell
