/-!
Short names for sources, as messages show them. A label is cut on the right, a file name on the
left, and source text is quoted up to the end of its first line. No short name is longer than 59
characters, and no quoted text holds a line feed.
-/

namespace StackScope

namespace ChunkName

def sizeLimit : Nat := 60

/-- The characters before the first line feed, without a carriage return directly before it. -/
def firstLine (text : List Char) : List Char :=
  let line := text.takeWhile (· != '\n')
  if text.contains '\n' && line.getLast? == some '\r' then line.dropLast else line

def ofLabel (label : List Char) : List Char := label.take (sizeLimit - 1)

def ofPath (path : List Char) : List Char :=
  if path.length < sizeLimit then path
  else '.' :: '.' :: '.' :: path.drop (path.length - (sizeLimit - 4))

def ofText (text : List Char) : List Char :=
  let line := firstLine text
  let room := sizeLimit - 15
  let shown :=
    if text.contains '\n' || decide (room < line.length) then line.take room ++ ['.', '.', '.']
    else line
  "[string \"".toList ++ shown ++ "\"]".toList

theorem length_ofLabel (label : List Char) : (ofLabel label).length ≤ 59 :=
  List.length_take_le _ _

theorem length_ofPath (path : List Char) : (ofPath path).length ≤ 59 := by
  unfold ofPath sizeLimit
  split
  · omega
  · simp only [List.length_cons, List.length_drop]
    omega

theorem length_ofText (text : List Char) : (ofText text).length ≤ 59 := by
  unfold ofText sizeLimit
  dsimp only
  split
  · simp
    omega
  · rename_i short
    simp at short
    simp
    omega

end ChunkName

def chunkName (source : String) : String :=
  match source.toList with
  | '=' :: label => String.ofList (ChunkName.ofLabel label)
  | '@' :: path => String.ofList (ChunkName.ofPath path)
  | text => String.ofList (ChunkName.ofText text)

end StackScope
