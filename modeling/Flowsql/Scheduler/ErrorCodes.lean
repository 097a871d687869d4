import Mathlib

/-! # The error codes of the operating system that the scheduler returns -/

namespace Flowsql.Scheduler

def EIO : Int := 5

def EBADF : Int := 9

def EAGAIN : Int := 11

def EBUSY : Int := 16

def EEXIST : Int := 17

def EINVAL : Int := 22

def ETIMEDOUT : Int := 110

def ECANCELED : Int := 125

end Flowsql.Scheduler
