/-! Paths of files: names separated by slashes. -/

set_option autoImplicit false

namespace CreatureNaming.Path

/-- Whether a path starts at the root. -/
def isAbsolute (path : String) : Bool := path.toList.head? == some '/'

/-- A path inside of a directory. An absolute path stays, and so does one inside of the empty
path. -/
def join (directory path : String) : String :=
  if isAbsolute path || directory.isEmpty then path
  else if directory.toList.getLast? == some '/' then directory ++ path
  else directory ++ "/" ++ path

/-- Take slashes and names `.` from the front of a reversed path. A slash or a dot at the very
start of the path stays. -/
def trimReversed : List Char → List Char
  | '/' :: c :: rest => trimReversed (c :: rest)
  | '.' :: '/' :: rest => trimReversed ('/' :: rest)
  | path => path

/-- The directory that a path lies in; the empty path for a lone name, and none for the root and
the empty path. -/
def directory? (path : String) : Option String :=
  match trimReversed path.toList.reverse with
  | [] | ['/'] => none
  | reversed =>
      some (.ofList (trimReversed (reversed.dropWhile fun c => c != '/')).reverse)

/-- The directories that a path lies in, at most `count` of them, the innermost one first. -/
def directoriesUpTo (count : Nat) (path : String) : List String :=
  match count, directory? path with
  | 0, _ | _, none => []
  | count + 1, some directory => directory :: directoriesUpTo count directory

/-- The directories that a path lies in, the innermost one first. Each one is shorter than the
one before. -/
def directories (path : String) : List String := directoriesUpTo path.toList.length path

/-- The names of a path. -/
def names : List Char → List String
  | [] => [""]
  | c :: rest =>
      if c = '/' then "" :: names rest
      else
        match names rest with
        | name :: others => (c.toString ++ name) :: others
        | [] => [c.toString]

end CreatureNaming.Path
