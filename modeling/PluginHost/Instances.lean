/-!
# Instances taken from core

A power of numbers and the equality of byte sequences have an instance in core and another in the libraries that proofs
import. The definitions read the same in both places because core's instances are preferred everywhere.
-/

attribute [instance (high)] instPowNat ByteArray.instDecidableEq
attribute [default_instance (20000)] instPowNat
