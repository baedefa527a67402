namespace QueryTaint

def pieces (mark : Char) : List Char → List (List Char)
  | [] => [[]]
  | char :: rest =>
    match pieces mark rest with
    | [] => [[char]]
    | first :: more => if char = mark then [] :: first :: more else (char :: first) :: more

end QueryTaint
