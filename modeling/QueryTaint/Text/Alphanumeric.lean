import QueryTaint.Text.Alphabetic
import QueryTaint.Text.Numeric

namespace QueryTaint

def isAlphanumeric (char : Char) : Bool := isAlphabetic char || isNumeric char

end QueryTaint
