import Emend.Unicode.Property

/-!
# Characters newer than the tables

The tables of categories, properties and scripts are those of Unicode 16, and
patterns are matched by them. The names of groups and the quoting of text follow
Unicode 17, which has all of these characters and those that are listed here.

* `Newest.alphabetic` and `Newest.numeric` are the characters that names are made of.
* `Newest.assigned` and `Newest.graphemeExtend` decide how a character is quoted.
-/

namespace Emend.Unicode.Newest

/-- The characters that Unicode 17 added. -/
def added : CharSet :=
  CharSet.ofText
    "88F C5C CDC 1ACF-1ADD 1AE0-1AEB 20C1 2B96 A7CE-A7CF A7D2 A7D4 A7F1 FBC3-FBD2 FD90-FD91
    FDC8-FDCE 10940-10959 10EC5-10EC7 10ED0-10ED8 10EFA-10EFB 11B60-11B67 11DB0-11DDB
    11DE0-11DE9 16EA0-16EB8 16EBB-16ED3 16FF2-16FF6 187F8-187FF 18D09-18D1E 18D80-18DF2
    1CCFA-1CCFC 1CEBA-1CED0 1CEE0-1CEF0 1E6C0-1E6DE 1E6E0-1E6F5 1E6FE-1E6FF 1F6D8
    1F777-1F77A 1F8D0-1F8D8 1FA54-1FA57 1FA8A 1FA8E 1FAC8 1FACD 1FAEA 1FAEF 1FBFA
    2B73A-2B73F 2CEA2-2CEAD 323B0-33479"

/-- Those of them that are alphabetic. -/
def addedAlphabetic : CharSet :=
  CharSet.ofText
    "88F C5C CDC A7CE-A7CF A7D2 A7D4 A7F1 10940-10959 10EC5-10EC7 10EFA-10EFB 11B60-11B67
    11DB0-11DDB 16EA0-16EB8 16EBB-16ED3 16FF2-16FF6 187F8-187FF 18D09-18D1E 18D80-18DF2
    1E6C0-1E6DE 1E6E0-1E6F5 1E6FE-1E6FF 2B73A-2B73F 2CEA2-2CEAD 323B0-33479"

/-- Those of them that are numbers. -/
def addedNumeric : CharSet := CharSet.ofText "11DE0-11DE9 16FF4-16FF6"

/-- Those of them that extend the grapheme before them; all of these are marks. -/
def addedGraphemeExtend : CharSet :=
  CharSet.ofText
    "1ACF-1ADD 1AE0-1AEB 10EFA-10EFB 11B60 11B62-11B64 11B66 1E6E3 1E6E6 1E6EE-1E6EF 1E6F5"

/-- The characters that have a category. -/
def assigned : CharSet := Category.assigned.union added

/-- Letters, and what counts as a letter. -/
def alphabetic : CharSet := Property.alphabetic.union addedAlphabetic

/-- Digits, and everything else that stands for a number. -/
def numeric : CharSet :=
  (Category.sets [.decimalNumber, .letterNumber, .otherNumber]).union addedNumeric

/-- Characters that extend the grapheme before them. -/
def graphemeExtend : CharSet := Property.graphemeExtend.union addedGraphemeExtend

end Emend.Unicode.Newest
