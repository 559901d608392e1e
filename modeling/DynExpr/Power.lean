/-! # Powers

    Machine ranges, the grid of floats and the places of a decimal numeral
    are all written with powers of naturals and integers. A larger library
    brings a power of its own for every monoid, and a module that can see it
    would read `2 ^ 64` as that one. Core's power comes first here, so that
    the same text is the same number in every module.
-/

attribute [instance (2000), default_instance (20000)] instPowNat
