import EditorData.Template.Member

/-!
# Members of numbers

What integers and truth values offer. A truth value is an integer as well.
-/

namespace EditorData.Template.Vocabulary

open Member

/-- The members of integers. -/
def integerMembers : List Member :=
  [constructor, slot "__repr__", slot "__hash__", slot "__getattribute__", slot "__lt__",
    slot "__le__", slot "__eq__", slot "__ne__", slot "__gt__", slot "__ge__", slot "__add__",
    slot "__radd__", slot "__sub__", slot "__rsub__", slot "__mul__", slot "__rmul__",
    slot "__mod__", slot "__rmod__", slot "__divmod__", slot "__rdivmod__", slot "__pow__",
    slot "__rpow__", slot "__neg__", slot "__pos__", slot "__abs__", slot "__bool__",
    slot "__invert__", slot "__lshift__", slot "__rlshift__", slot "__rshift__",
    slot "__rrshift__", slot "__and__", slot "__rand__", slot "__xor__", slot "__rxor__",
    slot "__or__", slot "__ror__", slot "__int__", slot "__float__", slot "__floordiv__",
    slot "__rfloordiv__", slot "__truediv__", slot "__rtruediv__", slot "__index__",
    method "conjugate" none ["Returns self, the complex conjugate of any int."],
    method "bit_length" (some "($self, /)")
      ["Number of bits necessary to represent self in binary.", "", ">>> bin(37)", "'0b100101'",
       ">>> (37).bit_length()", "6"],
    method "bit_count" (some "($self, /)")
      ["Number of ones in the binary representation of the absolute value of self.", "",
       "Also known as the population count.", "", ">>> bin(13)", "'0b1101'",
       ">>> (13).bit_count()", "3"],
    method "to_bytes" (some "($self, /, length=1, byteorder='big', *, signed=False)")
      ["Return an array of bytes representing an integer.", "", "  length",
       "    Length of bytes object to use.  An OverflowError is raised if the",
       "    integer is not representable with the given number of bytes.  Default",
       "    is length 1.", "  byteorder",
       "    The byte order used to represent the integer.  If byteorder is 'big',",
       "    the most significant byte is at the beginning of the byte array.  If",
       "    byteorder is 'little', the most significant byte is at the end of the",
       "    byte array.  To request the native byte order of the host system, use",
       "    `sys.byteorder' as the byte order value.  Default is to use 'big'.", "  signed",
       "    Determines whether two's complement is used to represent the integer.",
       "    If signed is False and a negative integer is given, an OverflowError",
       "    is raised."],
    classMethod "from_bytes" (some "($type, /, bytes, byteorder='big', *, signed=False)")
      ["Return the integer represented by the given array of bytes.", "", "  bytes",
       "    Holds the array of bytes to convert.  The argument must either",
       "    support the buffer protocol or be an iterable object producing bytes.",
       "    Bytes and bytearray are examples of built-in objects that support the",
       "    buffer protocol.", "  byteorder",
       "    The byte order used to represent the integer.  If byteorder is 'big',",
       "    the most significant byte is at the beginning of the byte array.  If",
       "    byteorder is 'little', the most significant byte is at the end of the",
       "    byte array.  To request the native byte order of the host system, use",
       "    `sys.byteorder' as the byte order value.  Default is to use 'big'.", "  signed",
       "    Indicates whether two's complement is used to represent the integer."],
    method "as_integer_ratio" (some "($self, /)")
      ["Return integer ratio.", "",
       "Return a pair of integers, whose ratio is exactly equal to the original int",
       "and with a positive denominator.", "", ">>> (10).as_integer_ratio()", "(10, 1)",
       ">>> (-10).as_integer_ratio()", "(-10, 1)", ">>> (0).as_integer_ratio()", "(0, 1)"],
    method "__trunc__" none ["Truncating an Integral returns itself."],
    method "__floor__" none ["Flooring an Integral returns itself."],
    method "__ceil__" none ["Ceiling of an Integral returns itself."],
    method "__round__" (some "($self, ndigits=<unrepresentable>, /)")
      ["Rounding an Integral returns itself.", "",
       "Rounding with an ndigits argument also returns an integer."],
    method "__getnewargs__" (some "($self, /)") [],
    method "__format__" (some "($self, format_spec, /)") [],
    method "__sizeof__" (some "($self, /)") ["Returns size in memory, in bytes."],
    property "real" none ["the real part of a complex number"],
    property "imag" none ["the imaginary part of a complex number"],
    property "numerator" none ["the numerator of a rational number in lowest terms"],
    property "denominator" none ["the denominator of a rational number in lowest terms"]]

/-- The members that truth values have of their own. -/
def truthMembers : List Member :=
  [constructor, slot "__repr__", slot "__and__", slot "__rand__", slot "__xor__", slot "__rxor__",
    slot "__or__", slot "__ror__"]

end EditorData.Template.Vocabulary
