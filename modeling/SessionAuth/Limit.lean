/-
Limits of numbers.

Numbers that come from outside or go there are held in words of a fixed width.  A limit
is the first number that a word of so many bits cannot hold.
-/
namespace SessionAuth

abbrev limit16 : Nat := 0x10000
abbrev limit24 : Nat := 0x1000000
abbrev limit31 : Nat := 0x80000000
abbrev limit32 : Nat := 0x100000000
abbrev limit33 : Nat := 0x200000000
abbrev limit63 : Nat := 0x8000000000000000
abbrev limit64 : Nat := 0x10000000000000000

end SessionAuth
