/-!
# The system and its files

What scripts ask the system for: files, directories, variables and paths.
-/

namespace BuiltinWrappers.Script.Indented.Library

/-- The interpreter itself. -/
def system : String := r#"
  |from _sys import exc_info, getsizeof, getrefcount
  |version = '3.11.2 (main, Mar 13 2023, 12:18:29) [GCC 12.2.0]'
  |platform = 'linux'
  |maxsize = 9223372036854775807
  |maxunicode = 1114111
  |byteorder = 'little'
  |executable = '/usr/bin/python3'
  |prefix = exec_prefix = base_prefix = base_exec_prefix = '/usr'
  |hexversion = 51053296
  |api_version = 1013
  |abiflags = ''
  |copyright = ''
  |float_repr_style = 'short'
  |dont_write_bytecode = True
  |ps1 = '>>> '
  |warnoptions = []
  |meta_path = []
  |path_hooks = []
  |path_importer_cache = dict()
  |orig_argv = ['python3'] + list(argv)
  |builtin_module_names = ('builtins', 'posix', 'sys', 'time')
  |stdlib_module_names = frozenset(('os', 'sys', 're', 'io', 'json', 'time', 'math'))
  |__stdin__ = stdin
  |__stdout__ = stdout
  |__stderr__ = stderr
  |
  |class _Named(tuple):
  |    _names = ()
  |    def __getattr__(self, name):
  |        if name in self._names:
  |            return self[self._names.index(name)]
  |        raise AttributeError(name)
  |    def __repr__(self):
  |        pairs = ['%s=%r' % pair for pair in zip(self._names, self)]
  |        return 'sys.' + type(self).__name__ + '(' + ', '.join(pairs) + ')'
  |
  |class version_info(_Named):
  |    _names = ('major', 'minor', 'micro', 'releaselevel', 'serial')
  |
  |class flags(_Named):
  |    _names = ('debug', 'inspect', 'interactive', 'optimize', 'dont_write_bytecode',
  |              'no_user_site', 'no_site', 'ignore_environment', 'verbose', 'bytes_warning',
  |              'quiet', 'hash_randomization', 'isolated', 'dev_mode', 'utf8_mode')
  |
  |class float_info(_Named):
  |    _names = ('max', 'max_exp', 'max_10_exp', 'min', 'min_exp', 'min_10_exp', 'dig',
  |              'mant_dig', 'epsilon', 'radix', 'rounds')
  |
  |class int_info(_Named):
  |    _names = ('bits_per_digit', 'sizeof_digit')
  |
  |version_info = version_info((3, 11, 2, 'final', 0))
  |flags = flags((0,) * 11 + (1, 0, False, 0))
  |float_info = float_info((1.7976931348623157e+308, 1024, 308, 2.2250738585072014e-308,
  |                         -1021, -307, 15, 53, 2.220446049250313e-16, 2, 1))
  |int_info = int_info((30, 4))
  |
  |class implementation:
  |    name = 'cpython'
  |    cache_tag = 'cpython-311'
  |    version = version_info
  |
  |def exit(status=None):
  |    raise SystemExit(status)
  |
  |def getdefaultencoding():
  |    return 'utf-8'
  |
  |def getfilesystemencoding():
  |    return 'utf-8'
  |
  |def getfilesystemencodeerrors():
  |    return 'surrogateescape'
  |
  |def getrecursionlimit():
  |    return 1000
  |
  |def setrecursionlimit(limit):
  |    pass
  |
  |def intern(text):
  |    return text
  |
  |def exception():
  |    return exc_info()[1]
  |
  |def settrace(function):
  |    pass
  |
  |def setprofile(function):
  |    pass
  |
  |def gettrace():
  |    return None
  |
  |def is_finalizing():
  |    return False
  |
  |def setswitchinterval(interval):
  |    pass
  |
  |def getswitchinterval():
  |    return 0.005
  |
  |def displayhook(value):
  |    if value is not None:
  |        print(repr(value))
  |
  |def excepthook(kind, value, trace):
  |    print(kind.__name__ + ': ' + str(value), file=stderr)
  |
  |__excepthook__ = excepthook
  |__displayhook__ = displayhook
  |
  |def unraisablehook(args):
  |    pass
  |
  |def audit(*args):
  |    pass
  |
  |def addaudithook(hook):
  |    pass
  |
  |def set_int_max_str_digits(digits):
  |    pass
  |
  |def get_int_max_str_digits():
  |    return 4300"#

/-- Files, directories, variables and processes. -/
def operatingSystem : String := r#"
  |import sys
  |import stat as _st
  |from posix import (getcwd, chdir, listdir, mkdir, rmdir, unlink, rename, link, symlink,
  |                   readlink, chmod, access, umask, open, read, write, close, lseek, ftruncate,
  |                   dup, dup2, utime, environ)
  |import posix
  |import posixpath as path
  |from posixpath import curdir, pardir, sep, pathsep, defpath, extsep, altsep, devnull
  |
  |name = 'posix'
  |linesep = '\n'
  |error = OSError
  |remove = unlink
  |SEEK_SET, SEEK_CUR, SEEK_END = 0, 1, 2
  |F_OK, R_OK, W_OK, X_OK = 0, 4, 2, 1
  |O_RDONLY, O_WRONLY, O_RDWR = 0, 1, 2
  |O_CREAT, O_EXCL, O_NOCTTY, O_TRUNC, O_APPEND = 0o100, 0o200, 0o400, 0o1000, 0o2000
  |O_NONBLOCK, O_SYNC, O_DIRECTORY, O_NOFOLLOW = 0o4000, 0o4010000, 0o200000, 0o400000
  |O_CLOEXEC = 0o2000000
  |EX_OK, EX_USAGE, EX_DATAERR, EX_NOINPUT, EX_SOFTWARE, EX_IOERR = 0, 64, 65, 66, 70, 74
  |supports_follow_symlinks = set()
  |supports_fd = set()
  |supports_dir_fd = set()
  |supports_effective_ids = set()
  |P_WAIT, P_NOWAIT = 0, 1
  |
  |class _PathKind(type):
  |    def __instancecheck__(cls, instance):
  |        return hasattr(type(instance), '__fspath__')
  |    def __subclasscheck__(cls, kind):
  |        return hasattr(kind, '__fspath__')
  |
  |class PathLike(metaclass=_PathKind):
  |    def __class_getitem__(cls, item):
  |        return cls
  |
  |class stat_result(tuple):
  |    st_mode = property(lambda self: self[0])
  |    st_ino = property(lambda self: self[1])
  |    st_dev = property(lambda self: self[2])
  |    st_nlink = property(lambda self: self[3])
  |    st_uid = property(lambda self: self[4])
  |    st_gid = property(lambda self: self[5])
  |    st_size = property(lambda self: self[6])
  |    st_atime = property(lambda self: float(self[7]))
  |    st_mtime = property(lambda self: float(self[8]))
  |    st_ctime = property(lambda self: float(self[9]))
  |    st_atime_ns = property(lambda self: self[7] * 1000000000)
  |    st_mtime_ns = property(lambda self: self[8] * 1000000000)
  |    st_ctime_ns = property(lambda self: self[9] * 1000000000)
  |    st_blksize = property(lambda self: 4096)
  |    st_blocks = property(lambda self: (self[6] + 511) // 512)
  |    def __repr__(self):
  |        names = ('st_mode', 'st_ino', 'st_dev', 'st_nlink', 'st_uid', 'st_gid', 'st_size',
  |                 'st_atime', 'st_mtime', 'st_ctime')
  |        return 'os.stat_result(' + ', '.join('%s=%d' % p for p in zip(names, self)) + ')'
  |
  |def stat(path, *, dir_fd=None, follow_symlinks=True):
  |    return stat_result(posix.stat(path, follow_symlinks=follow_symlinks))
  |
  |def lstat(path, *, dir_fd=None):
  |    return stat_result(posix.lstat(path))
  |
  |def fstat(fd):
  |    return stat_result(posix.stat(fd))
  |
  |def replace(src, dst, **rest):
  |    rename(src, dst)
  |
  |def fspath(path):
  |    if isinstance(path, (str, bytes)):
  |        return path
  |    kind = type(path)
  |    try:
  |        found = kind.__fspath__(path)
  |    except AttributeError:
  |        if hasattr(kind, '__fspath__'):
  |            raise
  |        raise TypeError('expected str, bytes or os.PathLike object, not ' + kind.__name__)
  |    if isinstance(found, (str, bytes)):
  |        return found
  |    raise TypeError('expected ' + kind.__name__ + '.__fspath__() to return str or bytes, not '
  |                    + type(found).__name__)
  |
  |def fsencode(filename):
  |    filename = fspath(filename)
  |    if isinstance(filename, str):
  |        return filename.encode('utf-8', 'surrogateescape')
  |    return filename
  |
  |def fsdecode(filename):
  |    filename = fspath(filename)
  |    if isinstance(filename, bytes):
  |        return filename.decode('utf-8', 'surrogateescape')
  |    return filename
  |
  |def getenv(key, default=None):
  |    return environ.get(key, default)
  |
  |def putenv(key, value):
  |    pass
  |
  |def unsetenv(key):
  |    pass
  |
  |def getcwdb():
  |    return fsencode(getcwd())
  |
  |def makedirs(name, mode=0o777, exist_ok=False):
  |    head, tail = path.split(name)
  |    if not tail:
  |        head, tail = path.split(head)
  |    if head and tail and not path.exists(head):
  |        try:
  |            makedirs(head, exist_ok=exist_ok)
  |        except FileExistsError:
  |            pass
  |        if tail == curdir:
  |            return
  |    try:
  |        mkdir(name, mode)
  |    except OSError:
  |        if not exist_ok or not path.isdir(name):
  |            raise
  |
  |def removedirs(name):
  |    rmdir(name)
  |    head, tail = path.split(name)
  |    if not tail:
  |        head, tail = path.split(head)
  |    while head and tail:
  |        try:
  |            rmdir(head)
  |        except OSError:
  |            break
  |        head, tail = path.split(head)
  |
  |def renames(old, new):
  |    head, tail = path.split(new)
  |    if head and tail and not path.exists(head):
  |        makedirs(head)
  |    rename(old, new)
  |    head, tail = path.split(old)
  |    if head and tail:
  |        try:
  |            removedirs(head)
  |        except OSError:
  |            pass
  |
  |class DirEntry:
  |    def __init__(self, directory, name):
  |        self.name = name
  |        self.path = path.join(directory, name)
  |    def __fspath__(self):
  |        return self.path
  |    def __repr__(self):
  |        return '<DirEntry %r>' % self.name
  |    def _mode(self, follow):
  |        try:
  |            return (stat(self.path) if follow else lstat(self.path)).st_mode
  |        except FileNotFoundError:
  |            return 0
  |    def is_dir(self, *, follow_symlinks=True):
  |        return _st.S_ISDIR(self._mode(follow_symlinks))
  |    def is_file(self, *, follow_symlinks=True):
  |        return _st.S_ISREG(self._mode(follow_symlinks))
  |    def is_symlink(self):
  |        return _st.S_ISLNK(self._mode(False))
  |    def is_junction(self):
  |        return False
  |    def stat(self, *, follow_symlinks=True):
  |        return stat(self.path, follow_symlinks=follow_symlinks)
  |    def inode(self):
  |        return lstat(self.path).st_ino
  |
  |class _Scan:
  |    def __init__(self, directory):
  |        self._directory = '.' if directory is None else fspath(directory)
  |        if directory is None:
  |            self._front = '.'
  |        else:
  |            self._front = self._directory
  |        self._names = iter(listdir(self._directory))
  |    def __iter__(self):
  |        return self
  |    def __next__(self):
  |        return DirEntry(self._front, next(self._names))
  |    def __enter__(self):
  |        return self
  |    def __exit__(self, *args):
  |        self.close()
  |    def close(self):
  |        self._names = iter(())
  |
  |def scandir(path=None):
  |    return _Scan(path)
  |
  |def walk(top, topdown=True, onerror=None, followlinks=False):
  |    top = fspath(top)
  |    dirs = []
  |    nondirs = []
  |    try:
  |        entries = list(scandir(top))
  |    except OSError as error:
  |        if onerror is not None:
  |            onerror(error)
  |        return
  |    below = []
  |    for entry in entries:
  |        if entry.is_dir():
  |            dirs.append(entry.name)
  |        else:
  |            nondirs.append(entry.name)
  |        if not topdown and entry.is_dir() and (followlinks or not entry.is_symlink()):
  |            below.append(entry.path)
  |    if topdown:
  |        yield top, dirs, nondirs
  |        for name in dirs:
  |            new = path.join(top, name)
  |            if followlinks or not path.islink(new):
  |                yield from walk(new, topdown, onerror, followlinks)
  |    else:
  |        for new in below:
  |            yield from walk(new, topdown, onerror, followlinks)
  |        yield top, dirs, nondirs
  |
  |def truncate(path, length):
  |    fd = path if isinstance(path, int) else open(path, O_WRONLY)
  |    try:
  |        ftruncate(fd, length)
  |    finally:
  |        if fd is not path:
  |            close(fd)
  |
  |def fdopen(fd, mode='r', buffering=-1, encoding=None, *args, **kwargs):
  |    import builtins
  |    if not isinstance(fd, int):
  |        raise TypeError('invalid fd type (%s, expected integer)' % type(fd))
  |    return builtins.open(fd, mode, buffering, encoding, *args, **kwargs)
  |
  |def fsync(fd):
  |    pass
  |
  |fdatasync = fsync
  |
  |def sync():
  |    pass
  |
  |def isatty(fd):
  |    return False
  |
  |def ttyname(fd):
  |    raise OSError(25, 'Inappropriate ioctl for device')
  |
  |class terminal_size(tuple):
  |    columns = property(lambda self: self[0])
  |    lines = property(lambda self: self[1])
  |
  |def get_terminal_size(fd=1):
  |    raise OSError(25, 'Inappropriate ioctl for device')
  |
  |def _exit(status):
  |    posix._leave(status)
  |
  |def abort():
  |    posix._leave(134)
  |
  |def urandom(size):
  |    return posix._random(size)
  |
  |def getpid():
  |    return 4242
  |
  |def getppid():
  |    return 4241
  |
  |def getpgrp():
  |    return 4242
  |
  |def getuid():
  |    return 0
  |
  |geteuid = getgid = getegid = getuid
  |
  |def getgroups():
  |    return [0]
  |
  |def getlogin():
  |    raise OSError(25, 'Inappropriate ioctl for device')
  |
  |def cpu_count():
  |    return 1
  |
  |def sched_getaffinity(pid):
  |    return set((0,))
  |
  |def getloadavg():
  |    return (0.0, 0.0, 0.0)
  |
  |def nice(increment):
  |    return increment
  |
  |class uname_result(tuple):
  |    sysname = property(lambda self: self[0])
  |    nodename = property(lambda self: self[1])
  |    release = property(lambda self: self[2])
  |    version = property(lambda self: self[3])
  |    machine = property(lambda self: self[4])
  |
  |def uname():
  |    return uname_result(('Linux', 'localhost', '5.15.0', '#1 SMP', 'x86_64'))
  |
  |def strerror(code):
  |    return _errors.get(code, 'Unknown error %d' % code)
  |
  |_errors = dict([(1, 'Operation not permitted'), (2, 'No such file or directory'),
  |                (4, 'Interrupted system call'), (5, 'Input/output error'),
  |                (9, 'Bad file descriptor'), (11, 'Resource temporarily unavailable'),
  |                (12, 'Cannot allocate memory'), (13, 'Permission denied'),
  |                (16, 'Device or resource busy'), (17, 'File exists'),
  |                (18, 'Invalid cross-device link'), (20, 'Not a directory'),
  |                (21, 'Is a directory'), (22, 'Invalid argument'),
  |                (28, 'No space left on device'),
  |                (32, 'Broken pipe'), (36, 'File name too long'), (39, 'Directory not empty'),
  |                (40, 'Too many levels of symbolic links')])
  |
  |def get_exec_path(env=None):
  |    if env is None:
  |        env = environ
  |    return env.get('PATH', defpath).split(pathsep)
  |
  |def chown(path, uid, gid, **rest):
  |    stat(path)
  |
  |lchown = chown
  |
  |def fchown(fd, uid, gid):
  |    pass
  |
  |def fchmod(fd, mode):
  |    chmod(fd, mode)
  |
  |def fchdir(fd):
  |    raise OSError(20, 'Not a directory')
  |
  |def kill(pid, signal):
  |    raise ProcessLookupError(3, 'No such process')
  |
  |def system(command):
  |    status, out, err = posix._run(['sh', '-c', command], None, None, None)
  |    posix._show(1, out)
  |    posix._show(2, err)
  |    return status << 8
  |
  |class _Pipe:
  |    def __init__(self, text):
  |        import io
  |        self._text = io.StringIO(text)
  |        self._status = None
  |    def close(self):
  |        return self._status
  |    def __getattr__(self, name):
  |        return getattr(self._text, name)
  |    def __iter__(self):
  |        return iter(self._text)
  |    def __enter__(self):
  |        return self
  |    def __exit__(self, *args):
  |        self.close()
  |
  |class _PipeIn:
  |    def __init__(self, command):
  |        self._command = command
  |        self._parts = []
  |        self.closed = False
  |    def write(self, text):
  |        self._parts.append(text)
  |        return len(text)
  |    def flush(self):
  |        pass
  |    def close(self):
  |        if self.closed:
  |            return None
  |        self.closed = True
  |        data = ''.join(self._parts).encode()
  |        status, out, err = posix._run(['sh', '-c', self._command], data, None, None)
  |        posix._show(1, out)
  |        posix._show(2, err)
  |        return status << 8 or None
  |    def __enter__(self):
  |        return self
  |    def __exit__(self, *args):
  |        self.close()
  |
  |def popen(command, mode='r', buffering=-1):
  |    if mode != 'r':
  |        return _PipeIn(command)
  |    status, out, err = posix._run(['sh', '-c', command], None, None, None)
  |    posix._show(2, err)
  |    pipe = _Pipe(out.decode())
  |    pipe._status = status << 8 or None
  |    return pipe
  |
  |def WEXITSTATUS(status):
  |    return status >> 8 & 255
  |
  |def WIFEXITED(status):
  |    return status & 127 == 0
  |
  |def WIFSIGNALED(status):
  |    return status & 127 != 0
  |
  |def WTERMSIG(status):
  |    return status & 127
  |
  |def waitstatus_to_exitcode(status):
  |    return status >> 8
  |
  |def _spawn(mode, words, env):
  |    status, out, err = posix._run(words, None, env, None)
  |    posix._show(1, out)
  |    posix._show(2, err)
  |    return status if mode == P_WAIT else 4243
  |
  |def spawnvp(mode, file, args):
  |    return _spawn(mode, [file] + list(args)[1:], None)
  |
  |def spawnlp(mode, file, *args):
  |    return _spawn(mode, [file] + list(args)[1:], None)
  |
  |spawnv = spawnvp
  |spawnl = spawnlp
  |
  |def _execute(words, env=None):
  |    sys.stdout.flush()
  |    status, out, err = posix._run(words, None, env, None)
  |    posix._show(1, out)
  |    posix._show(2, err)
  |    posix._leave(status)
  |
  |def execvp(file, args):
  |    _execute([file] + list(args)[1:])
  |
  |def execlp(file, *args):
  |    _execute([file] + list(args)[1:])
  |
  |def execve(path, args, env):
  |    _execute([path] + list(args)[1:], env)
  |
  |def execvpe(file, args, env):
  |    _execute([file] + list(args)[1:], env)
  |
  |execv = execvp
  |execl = execlp
  |environb = dict((fsencode(k), fsencode(v)) for k, v in environ.items())"#

/-- Paths as texts, and what they lead to. -/
def paths : String := r#"
  |curdir = '.'
  |pardir = '..'
  |extsep = '.'
  |sep = '/'
  |pathsep = ':'
  |defpath = '/bin:/usr/bin'
  |altsep = None
  |devnull = '/dev/null'
  |supports_unicode_filenames = False
  |import os
  |import stat
  |
  |def _sep(path):
  |    return b'/' if isinstance(path, bytes) else '/'
  |
  |def normcase(s):
  |    return os.fspath(s)
  |
  |def isabs(s):
  |    s = os.fspath(s)
  |    return s.startswith(_sep(s))
  |
  |def join(a, *p):
  |    a = os.fspath(a)
  |    s = _sep(a)
  |    path = a
  |    for b in p:
  |        b = os.fspath(b)
  |        if isinstance(b, bytes) != isinstance(a, bytes):
  |            raise TypeError("Can't mix strings and bytes in path components")
  |        if b.startswith(s):
  |            path = b
  |        elif not path or path.endswith(s):
  |            path += b
  |        else:
  |            path += s + b
  |    return path
  |
  |def split(p):
  |    p = os.fspath(p)
  |    s = _sep(p)
  |    i = p.rfind(s) + 1
  |    head, tail = p[:i], p[i:]
  |    if head and head != s * len(head):
  |        head = head.rstrip(s)
  |    return head, tail
  |
  |def splitext(p):
  |    p = os.fspath(p)
  |    s = _sep(p)
  |    dot = b'.' if isinstance(p, bytes) else '.'
  |    start = p.rfind(s) + 1
  |    place = p.rfind(dot)
  |    if place > start:
  |        i = start
  |        while i < place:
  |            if p[i:i + 1] != dot:
  |                return p[:place], p[place:]
  |            i += 1
  |    return p, p[:0]
  |
  |def splitdrive(p):
  |    p = os.fspath(p)
  |    return p[:0], p
  |
  |def basename(p):
  |    p = os.fspath(p)
  |    return p[p.rfind(_sep(p)) + 1:]
  |
  |def dirname(p):
  |    p = os.fspath(p)
  |    s = _sep(p)
  |    head = p[:p.rfind(s) + 1]
  |    if head and head != s * len(head):
  |        head = head.rstrip(s)
  |    return head
  |
  |def exists(path):
  |    try:
  |        os.stat(path)
  |    except (OSError, ValueError):
  |        return False
  |    return True
  |
  |def lexists(path):
  |    try:
  |        os.lstat(path)
  |    except (OSError, ValueError):
  |        return False
  |    return True
  |
  |def isfile(path):
  |    try:
  |        st = os.stat(path)
  |    except (OSError, ValueError):
  |        return False
  |    return stat.S_ISREG(st.st_mode)
  |
  |def isdir(s):
  |    try:
  |        st = os.stat(s)
  |    except (OSError, ValueError):
  |        return False
  |    return stat.S_ISDIR(st.st_mode)
  |
  |def islink(path):
  |    try:
  |        st = os.lstat(path)
  |    except (OSError, ValueError, AttributeError):
  |        return False
  |    return stat.S_ISLNK(st.st_mode)
  |
  |def isjunction(path):
  |    return False
  |
  |def ismount(path):
  |    return os.fspath(path) == '/'
  |
  |def getsize(filename):
  |    return os.stat(filename).st_size
  |
  |def getmtime(filename):
  |    return os.stat(filename).st_mtime
  |
  |def getatime(filename):
  |    return os.stat(filename).st_atime
  |
  |def getctime(filename):
  |    return os.stat(filename).st_ctime
  |
  |def samestat(s1, s2):
  |    return s1.st_ino == s2.st_ino and s1.st_dev == s2.st_dev
  |
  |def samefile(f1, f2):
  |    return samestat(os.stat(f1), os.stat(f2))
  |
  |def sameopenfile(fp1, fp2):
  |    return samestat(os.fstat(fp1), os.fstat(fp2))
  |
  |def normpath(path):
  |    path = os.fspath(path)
  |    s = _sep(path)
  |    dot, dotdot = s[:0] + path[:0], s[:0]
  |    dot = b'.' if isinstance(path, bytes) else '.'
  |    dotdot = dot + dot
  |    if not path:
  |        return dot
  |    slashes = 1 if path.startswith(s) else 0
  |    if path.startswith(s * 2) and not path.startswith(s * 3):
  |        slashes = 2
  |    found = []
  |    for comp in path.split(s):
  |        if not comp or comp == dot:
  |            continue
  |        if comp != dotdot or (not slashes and not found) or (found and found[-1] == dotdot):
  |            found.append(comp)
  |        elif found:
  |            found.pop()
  |    path = s * slashes + s.join(found)
  |    return path or dot
  |
  |def abspath(path):
  |    path = os.fspath(path)
  |    if not isabs(path):
  |        cwd = os.getcwd()
  |        if isinstance(path, bytes):
  |            cwd = os.fsencode(cwd)
  |        path = join(cwd, path)
  |    return normpath(path)
  |
  |def realpath(filename, *, strict=False):
  |    filename = os.fspath(filename)
  |    path, ok = _joinrealpath(filename[:0], filename, strict, dict())
  |    return abspath(path)
  |
  |def _joinrealpath(path, rest, strict, seen):
  |    if isabs(rest):
  |        rest = rest[1:]
  |        path = '/'
  |    while rest:
  |        name, _, rest = rest.partition('/')
  |        if not name or name == '.':
  |            continue
  |        if name == '..':
  |            if path:
  |                path, name = split(path)
  |                if name == '..':
  |                    path = join(path, '..', '..')
  |            else:
  |                path = '..'
  |            continue
  |        newpath = join(path, name)
  |        try:
  |            st = os.lstat(newpath)
  |        except OSError:
  |            if strict:
  |                raise
  |            is_link = False
  |        else:
  |            is_link = stat.S_ISLNK(st.st_mode)
  |        if not is_link:
  |            path = newpath
  |            continue
  |        if newpath in seen:
  |            path = seen[newpath]
  |            if path is not None:
  |                continue
  |            if strict:
  |                os.stat(newpath)
  |            else:
  |                return join(newpath, rest), False
  |        seen[newpath] = None
  |        path, ok = _joinrealpath(path, os.readlink(newpath), strict, seen)
  |        if not ok:
  |            return join(path, rest), False
  |        seen[newpath] = path
  |    return path, True
  |
  |def relpath(path, start=None):
  |    path = os.fspath(path)
  |    if not path:
  |        raise ValueError('no path specified')
  |    start = '.' if start is None else os.fspath(start)
  |    start_list = [x for x in abspath(start).split('/') if x]
  |    path_list = [x for x in abspath(path).split('/') if x]
  |    i = len(commonprefix([start_list, path_list]))
  |    found = ['..'] * (len(start_list) - i) + path_list[i:]
  |    if not found:
  |        return '.'
  |    return join(*found)
  |
  |def commonprefix(m):
  |    if not m:
  |        return ''
  |    if not isinstance(m[0], (list, tuple)):
  |        m = tuple(map(os.fspath, m))
  |    s1 = min(m)
  |    s2 = max(m)
  |    for i, c in enumerate(s1):
  |        if c != s2[i]:
  |            return s1[:i]
  |    return s1
  |
  |def commonpath(paths):
  |    paths = tuple(map(os.fspath, paths))
  |    if not paths:
  |        raise ValueError('commonpath() arg is an empty sequence')
  |    absolute = set(p[:1] == '/' for p in paths)
  |    if len(absolute) > 1:
  |        raise ValueError("Can't mix absolute and relative paths")
  |    parts = [[c for c in path.split('/') if c and c != '.'] for path in paths]
  |    s1 = min(parts)
  |    s2 = max(parts)
  |    common = s1
  |    for i, c in enumerate(s1):
  |        if c != s2[i]:
  |            common = s1[:i]
  |            break
  |    return ('/' if True in absolute else '') + '/'.join(common)
  |
  |def expanduser(path):
  |    path = os.fspath(path)
  |    if not path.startswith('~'):
  |        return path
  |    i = path.find('/', 1)
  |    if i < 0:
  |        i = len(path)
  |    if i == 1:
  |        home = os.environ.get('HOME', '/root')
  |    elif path[1:i] == 'root':
  |        home = '/root'
  |    else:
  |        return path
  |    home = home.rstrip('/')
  |    return (home + path[i:]) or '/'
  |
  |def expandvars(path):
  |    path = os.fspath(path)
  |    found = ''
  |    i = 0
  |    while i < len(path):
  |        c = path[i]
  |        if c != '$':
  |            found += c
  |            i += 1
  |            continue
  |        if path[i + 1:i + 2] == chr(123):
  |            j = path.find(chr(125), i)
  |            if j < 0:
  |                return found + path[i:]
  |            name = path[i + 2:j]
  |            j += 1
  |        else:
  |            j = i + 1
  |            while j < len(path) and (path[j].isalnum() or path[j] == '_'):
  |                j += 1
  |            name = path[i + 1:j]
  |        if name and name in os.environ:
  |            found += os.environ[name]
  |        else:
  |            found += path[i:j]
  |        i = j
  |    return found"#

/-- What the bits of a mode mean. -/
def modes : String := r#"
  |ST_MODE, ST_INO, ST_DEV, ST_NLINK, ST_UID, ST_GID, ST_SIZE = range(7)
  |ST_ATIME, ST_MTIME, ST_CTIME = 7, 8, 9
  |S_IFDIR = 0o040000
  |S_IFCHR = 0o020000
  |S_IFBLK = 0o060000
  |S_IFREG = 0o100000
  |S_IFIFO = 0o010000
  |S_IFLNK = 0o120000
  |S_IFSOCK = 0o140000
  |S_ISUID = 0o4000
  |S_ISGID = 0o2000
  |S_ENFMT = S_ISGID
  |S_ISVTX = 0o1000
  |S_IREAD = S_IRUSR = 0o0400
  |S_IWRITE = S_IWUSR = 0o0200
  |S_IEXEC = S_IXUSR = 0o0100
  |S_IRWXU = 0o0700
  |S_IRWXG = 0o0070
  |S_IRGRP = 0o0040
  |S_IWGRP = 0o0020
  |S_IXGRP = 0o0010
  |S_IRWXO = 0o0007
  |S_IROTH = 0o0004
  |S_IWOTH = 0o0002
  |S_IXOTH = 0o0001
  |
  |def S_IMODE(mode):
  |    return mode & 0o7777
  |
  |def S_IFMT(mode):
  |    return mode & 0o170000
  |
  |def S_ISDIR(mode):
  |    return S_IFMT(mode) == S_IFDIR
  |
  |def S_ISCHR(mode):
  |    return S_IFMT(mode) == S_IFCHR
  |
  |def S_ISBLK(mode):
  |    return S_IFMT(mode) == S_IFBLK
  |
  |def S_ISREG(mode):
  |    return S_IFMT(mode) == S_IFREG
  |
  |def S_ISFIFO(mode):
  |    return S_IFMT(mode) == S_IFIFO
  |
  |def S_ISLNK(mode):
  |    return S_IFMT(mode) == S_IFLNK
  |
  |def S_ISSOCK(mode):
  |    return S_IFMT(mode) == S_IFSOCK
  |
  |def filemode(mode):
  |    kinds = dict([(S_IFLNK, 'l'), (S_IFSOCK, 's'), (S_IFREG, '-'), (S_IFBLK, 'b'),
  |                  (S_IFDIR, 'd'), (S_IFCHR, 'c'), (S_IFIFO, 'p')])
  |    found = [kinds.get(S_IFMT(mode), '?')]
  |    for shift, special, letters in ((6, S_ISUID, 'sS'), (3, S_ISGID, 'sS'), (0, S_ISVTX, 'tT')):
  |        bits = mode >> shift
  |        found.append('r' if bits & 4 else '-')
  |        found.append('w' if bits & 2 else '-')
  |        if mode & special:
  |            found.append(letters[0] if bits & 1 else letters[1])
  |        else:
  |            found.append('x' if bits & 1 else '-')
  |    return ''.join(found)"#

/-- The numbers of system faults. -/
def faultNumbers : String := r#"
  |EPERM = 1
  |ENOENT = 2
  |ESRCH = 3
  |EINTR = 4
  |EIO = 5
  |ENXIO = 6
  |E2BIG = 7
  |ENOEXEC = 8
  |EBADF = 9
  |ECHILD = 10
  |EAGAIN = EWOULDBLOCK = 11
  |ENOMEM = 12
  |EACCES = 13
  |EFAULT = 14
  |EBUSY = 16
  |EEXIST = 17
  |EXDEV = 18
  |ENODEV = 19
  |ENOTDIR = 20
  |EISDIR = 21
  |EINVAL = 22
  |ENFILE = 23
  |EMFILE = 24
  |ENOTTY = 25
  |ETXTBSY = 26
  |EFBIG = 27
  |ENOSPC = 28
  |ESPIPE = 29
  |EROFS = 30
  |EMLINK = 31
  |EPIPE = 32
  |EDOM = 33
  |ERANGE = 34
  |EDEADLK = 35
  |ENAMETOOLONG = 36
  |ENOLCK = 37
  |ENOSYS = 38
  |ENOTEMPTY = 39
  |ELOOP = 40
  |ENODATA = 61
  |EPROTO = 71
  |EOVERFLOW = 75
  |EILSEQ = 84
  |EOPNOTSUPP = ENOTSUP = 95
  |EADDRINUSE = 98
  |ECONNABORTED = 103
  |ECONNRESET = 104
  |ETIMEDOUT = 110
  |ECONNREFUSED = 111
  |errorcode = dict((value, name) for name, value in list(globals().items())
  |                 if name[0] == 'E' and name not in ('EWOULDBLOCK', 'EOPNOTSUPP'))"#

end BuiltinWrappers.Script.Indented.Library
