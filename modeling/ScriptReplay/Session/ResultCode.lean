namespace ScriptReplay.ResultCode

def basicText : Int → String
  | 0 => "Successful result"
  | 1 => "SQL error or missing database"
  | 2 => "Internal logic error in SQLite"
  | 3 => "Access permission denied"
  | 4 => "Callback routine requested an abort"
  | 5 => "The database file is locked"
  | 6 => "A table in the database is locked"
  | 7 => "A malloc() failed"
  | 8 => "Attempt to write a readonly database"
  | 9 => "Operation terminated by sqlite3_interrupt()"
  | 10 => "Some kind of disk I/O error occurred"
  | 11 => "The database disk image is malformed"
  | 12 => "Unknown opcode in sqlite3_file_control()"
  | 13 => "Insertion failed because database is full"
  | 14 => "Unable to open the database file"
  | 15 => "Database lock protocol error"
  | 16 => "Database is empty"
  | 17 => "The database schema changed"
  | 18 => "String or BLOB exceeds size limit"
  | 19 => "Abort due to constraint violation"
  | 20 => "Data type mismatch"
  | 21 => "Library used incorrectly"
  | 22 => "Uses OS features not supported on host"
  | 23 => "Authorization denied"
  | 24 => "Auxiliary database format error"
  | 25 => "2nd parameter to sqlite3_bind out of range"
  | 26 => "File opened that is not a database file"
  | 27 => "Notifications from sqlite3_log()"
  | 28 => "Warnings from sqlite3_log()"
  | 100 => "sqlite3_step() has another row ready"
  | 101 => "sqlite3_step() has finished executing"
  | _ => "Unknown error code"

def ioText : Int → Option String
  | 1 => some "Error reading from disk"
  | 2 => some "Unable to obtain number of requested bytes (file truncated?)"
  | 3 => some "Error writing to disk"
  | 4 => some "Error flushing data to persistent storage (fsync)"
  | 5 => some "Error calling fsync on a directory"
  | 6 => some "Error attempting to truncate file"
  | 7 => some "Error invoking fstat to get file metadata"
  | 8 => some "I/O error within xUnlock of a VFS object"
  | 9 => some "I/O error within xLock of a VFS object (trying to obtain a read lock)"
  | 10 => some "I/O error within xDelete of a VFS object"
  | 11 => some "SQLITE_IOERR_BLOCKED"
  | 12 => some "Out of memory in I/O layer"
  | 13 => some "I/O error within xAccess of a VFS object"
  | 14 => some "I/O error within then xCheckReservedLock method"
  | 15 => some "I/O error in the advisory file locking layer"
  | 16 => some "I/O error within the xClose method"
  | 17 => some "SQLITE_IOERR_DIR_CLOSE"
  | 18 => some "I/O error within the xShmMap method (trying to open a new shared-memory segment)"
  | 19 =>
    some "I/O error within the xShmMap method (trying to resize an existing shared-memory segment)"
  | 20 => some "SQLITE_IOERR_SHMLOCK"
  | 21 => some <| "I/O error within the xShmMap method " ++
      "(trying to map a shared-memory segment into process address space)"
  | 22 => some "I/O error within the xRead or xWrite (trying to seek within a file)"
  | 23 => some "File being deleted does not exist"
  | 24 => some <| "I/O error while trying to map or unmap part of the database file " ++
      "into process address space"
  | 25 => some "VFS is unable to determine a suitable directory for temporary files"
  | 26 => some "cygwin_conv_path() system call failed"
  | 27 => some "SQLITE_IOERR_VNODE"
  | 28 => some "SQLITE_IOERR_AUTH"
  | 29 => some "SQLITE_IOERR_BEGIN_ATOMIC"
  | 30 => some "SQLITE_IOERR_COMMIT_ATOMIC"
  | 31 => some "SQLITE_IOERR_ROLLBACK_ATOMIC"
  | 32 => some "SQLITE_IOERR_DATA"
  | 33 => some "SQLITE_IOERR_CORRUPTFS"
  | 34 => some "SQLITE_IOERR_IN_PAGE"
  | _ => none

def constraintText : Int → Option String
  | 1 => some "A CHECK constraint failed"
  | 2 => some "Commit hook caused rollback"
  | 3 => some "Foreign key constraint failed"
  | 4 => some "Error returned from extension function"
  | 5 => some "A NOT NULL constraint failed"
  | 6 => some "A PRIMARY KEY constraint failed"
  | 7 => some "A RAISE function within a trigger fired"
  | 8 => some "A UNIQUE constraint failed"
  | 9 => some "An application-defined virtual table error occurred"
  | 10 => some "A non-unique rowid occurred"
  | 11 => some "SQLITE_CONSTRAINT_PINNED"
  | 12 => some "SQLITE_CONSTRAINT_DATATYPE"
  | _ => none

def detailText (basic detail : Int) : Option String :=
  match basic, detail with
  | 1, 1 => some "SQLITE_ERROR_MISSING_COLLSEQ"
  | 1, 2 => some "SQLITE_ERROR_RETRY"
  | 1, 3 => some "SQLITE_ERROR_SNAPSHOT"
  | 4, 2 => some "Transaction was rolled back"
  | 5, 1 => some "Another process is recovering a WAL mode database file"
  | 5, 2 => some <| "Cannot promote read transaction to write transaction " ++
      "because of writes by another connection"
  | 5, 3 => some "SQLITE_BUSY_TIMEOUT"
  | 6, 1 => some "Locking conflict due to another connection with a shared cache"
  | 6, 2 => some "SQLITE_LOCKED_VTAB"
  | 8, 1 => some "WAL mode database file needs recovery (requires write access)"
  | 8, 2 => some "Shared-memory file associated with WAL mode database is read-only"
  | 8, 3 => some "Database has hot journal that must be rolled back (requires write access)"
  | 8, 4 => some "Database cannot be modified because database file has moved"
  | 8, 5 => some "SQLITE_READONLY_CANTINIT"
  | 8, 6 => some "SQLITE_READONLY_DIRECTORY"
  | 10, detail => ioText detail
  | 11, 1 => some "Content in the virtual table is corrupt"
  | 11, 2 => some "SQLITE_CORRUPT_SEQUENCE"
  | 11, 3 => some "SQLITE_CORRUPT_INDEX"
  | 14, 1 => some "SQLITE_CANTOPEN_NOTEMPDIR"
  | 14, 2 => some "Attempted to open directory as file"
  | 14, 3 => some "Unable to convert filename into full pathname"
  | 14, 4 => some "cygwin_conv_path() system call failed"
  | 14, 6 => some "SQLITE_CANTOPEN_SYMLINK"
  | 19, detail => constraintText detail
  | 23, 1 => some "SQLITE_AUTH_USER"
  | 27, 1 => some "A WAL mode database file was recovered"
  | 27, 2 => some "Hot journal was rolled back"
  | 28, 1 => some "Automatic indexing used - database might benefit from additional indexes"
  | _, _ => none

def text (code : Int) : String :=
  if 0 ≤ code ∧ code < 256 then basicText code
  else (detailText (code % 256) (code / 256)).getD "Unknown error code"

def shown (code : Int) : String :=
  s!"Error code {code}: {text code}"

end ScriptReplay.ResultCode
