namespace QueryTaint

-- The characters with the property White_Space.
def isBlank (char : Char) : Bool :=
  let code := char.toNat
  (9 ≤ code && code ≤ 13) || code = 0x20 || code = 0x85 || code = 0xa0 || code = 0x1680 ||
    (0x2000 ≤ code && code ≤ 0x200a) || code = 0x2028 || code = 0x2029 || code = 0x202f ||
    code = 0x205f || code = 0x3000

def trimEnd (chars : List Char) : List Char := (chars.reverse.dropWhile isBlank).reverse

def trim (chars : List Char) : List Char := trimEnd (chars.dropWhile isBlank)

-- Without white space at its ends, and with small letters for the letters A to Z.
def normalize (text : String) : String := String.ofList ((trim text.toList).map Char.toLower)

end QueryTaint
